/-
# Documents read back

A document reads as what was written (`read_document`), if its keys stand plain
on one line, no key occurs twice in a mapping, and its blocks do not reach the
width (`Fits`).  Every text is allowed as a value.

The induction is on the depth of a node.  The entries of a sequence and the
fields of a mapping are nodes of less depth, and are read one after the other:
each of them ends before the line of the next.
-/
import SingleNode.Proofs.Yaml.Block

namespace SingleNode.Yaml.Reader

open Node (renderAfter renderItems renderFields)

/-- Behind a key at a column, the node is read from what is written there. -/
def ReadsAfterKey (indent : Nat) (value : Node) : Prop :=
  ∀ ⦃fuel column : Nat⦄ ⦃tail : List Char⦄, Within indent tail →
    NoItem indent tail →
    (renderAfter indent column true value ++ tail).length ≤ fuel →
    readAfterKey fuel indent (renderAfter indent column true value ++ tail) =
      some (value, tail)

/-- Behind a dash at a column, the node is read from what is written there. -/
def ReadsAfterDash (indent : Nat) (value : Node) : Prop :=
  ∀ ⦃fuel : Nat⦄ ⦃tail : List Char⦄, Within indent tail →
    (renderAfter indent (indent + 1) false value ++ tail).length ≤ fuel →
    readAfterDash fuel indent
      (renderAfter indent (indent + 1) false value ++ tail) =
      some (value, tail)

/-! ## Lists of nodes -/

/-- The entries of a sequence are read one after the other. -/
theorem readItems_renderItems {indent : Nat} {tail : List Char}
    (ht : Within indent tail) (hend : NoItem indent tail) {items : List Node}
    (hne : items ≠ []) (h : ∀ item ∈ items, ReadsAfterDash indent item)
    {fuel : Nat} (hf : (renderItems indent true items ++ tail).length ≤ fuel) :
    readItems fuel indent (renderItems indent true items ++ tail) =
      some (items, tail) := by
  induction items generalizing fuel with
  | nil => exact absurd rfl hne
  | cons item rest ih =>
    obtain ⟨hitem, hrest⟩ := List.forall_mem_cons.mp h
    rw [renderItems_true, List.cons_append, List.append_assoc] at hf ⊢
    cases fuel with
    | zero => cases hf
    | succ fuel =>
      have hf := Nat.le_of_succ_le_succ hf
      cases rest with
      | nil =>
        rw [renderItems, List.nil_append] at hf ⊢
        exact readItems_last (hitem ht hf) hend
      | cons next rest =>
        obtain ⟨hwithin, hline⟩ := line_renderItems indent next rest tail
        have hlen :
            (renderItems indent true (next :: rest) ++ tail).length ≤ fuel := by
          rw [renderItems_false] at hf
          simp only [List.length_append] at hf ⊢
          omega
        exact readItems_more (hitem hwithin hf)
          hline (isItem_renderItems indent next rest tail)
          (ih (List.cons_ne_nil next rest) hrest hlen)

theorem readFields_renderFields {indent : Nat} {tail : List Char}
    (ht : Within indent tail) (hend : lineAt indent tail = none)
    {fields : List (String × Node)} (hne : fields ≠ [])
    (hkeys : AreKeys (fields.map Prod.fst))
    (h : ∀ f ∈ fields, ReadsAfterKey indent f.2) {fuel : Nat}
    (hf : (renderFields indent true fields ++ tail).length ≤ fuel) :
    readFields fuel indent (renderFields indent true fields ++ tail) =
      some (fields, tail) := by
  induction fields generalizing fuel with
  | nil => exact absurd rfl hne
  | cons field rest ih =>
    obtain ⟨key, value⟩ := field
    obtain ⟨hkey, hnew, hkeys⟩ := hkeys.cons
    obtain ⟨hvalue, hrest⟩ := List.forall_mem_cons.mp h
    rw [renderFields_true hkey, List.append_assoc, List.cons_append,
      List.append_assoc] at hf ⊢
    generalize indent + key.toList.length + 1 = column at hf ⊢
    have hread := hkey.readKey
      (renderAfter_key indent column value
        (renderFields indent false rest ++ tail))
    cases fuel with
    | zero => simp at hf
    | succ fuel =>
      have hf : (renderAfter indent column true value ++
          (renderFields indent false rest ++ tail)).length ≤ fuel := by
        rw [List.length_append, List.length_cons] at hf
        omega
      cases rest with
      | nil =>
        exact readFields_last hread
          (hvalue ht (noItem_of_lineAt_eq_none hend) hf) hend
      | cons next rest =>
        obtain ⟨name, node⟩ := next
        have hname := hkeys.cons.1
        obtain ⟨hwithin, hline⟩ := line_renderFields hname indent node rest tail
        have hitem :
            NoItem indent
            (renderFields indent false ((name, node) :: rest) ++ tail) := by
          intro body hb
          rw [← Option.some.inj (hline.symm.trans hb)]
          exact isItem_renderFields hname indent node rest tail
        have hlen :
            (renderFields indent true ((name, node) :: rest) ++ tail).length ≤
            fuel := by
          rw [renderFields_false hname] at hf
          simp only [List.length_append] at hf ⊢
          omega
        exact readFields_more hread (hvalue hwithin hitem hf) hline
          (ih (List.cons_ne_nil _ rest) hkeys hrest hlen) hnew

/-! ## Nodes -/

theorem reads_of_readValue {indent : Nat} {value : Node}
    (f : Nat → Bool → List Char)
    (hw : ∀ column afterKey, renderAfter indent column afterKey value = ' ' ::
      f column afterKey) (hr : ∀ column afterKey tail, Within indent tail →
      readValue indent (f column afterKey ++ tail) = some (value, tail)) :
    ReadsAfterKey indent value ∧ ReadsAfterDash indent value := by
  constructor
  · intro fuel column tail ht _ hf
    rw [hw, List.cons_append] at hf ⊢
    cases fuel with
    | zero => cases hf
    | succ fuel =>
      rw [readAfterKey]
      exact hr column true tail ht
  · intro fuel tail ht hf
    rw [hw, List.cons_append] at hf ⊢
    cases fuel with
    | zero => cases hf
    | succ fuel =>
      rw [readAfterDash, hr _ false tail ht]
      rfl

theorem reads_text {indent : Nat} (hw : indent + 2 < width) (s : String) :
    ReadsAfterKey indent (.text s) ∧ ReadsAfterDash indent (.text s) := by
  refine reads_of_readValue
    (fun column _ => scalar (indent + 2) (column + 1) s.toList ++ ['\n'])
    (fun _ _ => rfl) fun column _ tail ht => ?_
  have h := readValue_scalar hw (column + 1) s.toList ht
  rw [String.ofList_toList] at h
  rw [← List.append_cons]
  exact h

theorem reads_integer (indent : Nat) (n : Int) :
    ReadsAfterKey indent (.integer n) ∧ ReadsAfterDash indent (.integer n) := by
  refine reads_of_readValue (fun _ _ => (toString n).toList ++ ['\n'])
    (fun _ _ => rfl)
    fun _ _ tail ht => ?_
  rw [← List.append_cons]
  exact readValue_toString indent n ht

theorem reads_sequence_nil (indent : Nat) :
    ReadsAfterKey indent (.sequence []) ∧
    ReadsAfterDash indent (.sequence []) :=
  reads_of_readValue (fun _ _ => "[]\n".toList) (fun _ _ => rfl) fun _ _ _ _ =>
    rfl

theorem reads_mapping_nil (indent : Nat) :
    ReadsAfterKey indent (.mapping []) ∧ ReadsAfterDash indent (.mapping []) :=
  reads_of_readValue (fun _ _ => "\x7b\x7d\n".toList) (fun _ _ => rfl)
    fun _ _ _ _ => rfl

theorem reads_sequence_cons {indent : Nat} {item : Node} {rest : List Node}
    (h : ∀ m, indent ≤ m → m ≤ indent + 2 →
      ∀ v ∈ item :: rest, ReadsAfterDash m v) :
    ReadsAfterKey indent (.sequence (item :: rest)) ∧
      ReadsAfterDash indent (.sequence (item :: rest)) := by
  have hne := List.cons_ne_nil item rest
  constructor
  · intro fuel column tail ht hend hf
    obtain ⟨-, hline⟩ := line_renderItems indent item rest tail
    change ('\n' :: (renderItems indent false (item :: rest) ++ tail)).length ≤
      fuel at hf
    cases fuel with
    | zero => cases hf
    | succ fuel =>
      have hlen :
          (renderItems indent true (item :: rest) ++ tail).length ≤ fuel := by
        rw [renderItems_false] at hf
        simp only [List.length_append, List.length_cons] at hf ⊢
        omega
      exact readAfterKey_sequence hline
        (isItem_renderItems indent item rest tail)
        (Nat.le_refl indent)
          (readItems_renderItems ht hend hne
          (h indent (by omega) (by omega)) hlen)
  · intro fuel tail ht hf
    change
      (' ' :: (renderItems (indent + 2) true (item :: rest) ++ tail)).length ≤
      fuel at hf
    cases fuel with
    | zero => cases hf
    | succ fuel =>
      have hend : NoItem (indent + 2) tail :=
        noItem_of_lineAt_eq_none (ht.lineAt_eq_none (by omega))
      have hvalue :
          readValue indent
            (renderItems (indent + 2) true (item :: rest) ++ tail) = none := by
        obtain ⟨cs, hcs⟩ := renderAfter_dash (indent + 2) (indent + 2 + 1) item
        rw [renderItems_true, hcs]
        rfl
      exact readAfterDash_sequence hvalue
        (isItem_renderItems (indent + 2) item rest tail)
        (readItems_renderItems (ht.mono (by omega)) hend hne
          (h (indent + 2) (by omega) (by omega))
          (Nat.le_of_succ_le_succ hf))

theorem reads_mapping_cons {indent : Nat} {key : String} {value : Node}
    {rest : List (String × Node)} (hkeys : AreKeys (key :: rest.map Prod.fst))
    (h : ∀ f ∈ (key, value) :: rest, ReadsAfterKey (indent + 2) f.2) :
    ReadsAfterKey indent (.mapping ((key, value) :: rest)) ∧
      ReadsAfterDash indent (.mapping ((key, value) :: rest)) := by
  have hkey := hkeys.cons.1
  have read {fuel : Nat} {tail : List Char} (ht : Within indent tail)
      (hf : (renderFields (indent + 2) true ((key, value) :: rest) ++
        tail).length ≤ fuel) :=
    readFields_renderFields (ht.mono (by omega)) (ht.lineAt_eq_none (by omega))
      (List.cons_ne_nil (key, value) rest) hkeys h hf
  constructor
  · intro fuel column tail ht _ hf
    obtain ⟨-, hline⟩ := line_renderFields hkey (indent + 2) value rest tail
    change
      ('\n' ::
      (renderFields (indent + 2) false ((key, value) :: rest) ++ tail)).length ≤
      fuel
      at hf
    cases fuel with
    | zero => cases hf
    | succ fuel =>
      have hlen :
          (renderFields (indent + 2) true ((key, value) :: rest) ++
            tail).length ≤ fuel := by
        rw [renderFields_false hkey] at hf
        simp only [List.length_append, List.length_cons] at hf ⊢
        omega
      exact readAfterKey_mapping hline
        (isItem_renderFields hkey (indent + 2) value rest tail)
        (by omega) (read ht hlen)
  · intro fuel tail ht hf
    change
      (' ' ::
      (renderFields (indent + 2) true ((key, value) :: rest) ++ tail)).length ≤
      fuel
      at hf
    cases fuel with
    | zero => cases hf
    | succ fuel =>
      have hvalue : readValue indent
          (renderFields (indent + 2) true ((key, value) :: rest) ++ tail) =
            none := by
        rw [renderFields_true hkey, List.append_assoc, List.cons_append,
          List.append_assoc]
        exact hkey.readValue (renderAfter_key _ _ value _) indent
      exact readAfterDash_mapping hvalue
        (isItem_renderFields hkey (indent + 2) value rest tail)
        (read ht (Nat.le_of_succ_le_succ hf))

/-! ## Documents -/

/-- Holds of the nodes of at most the given depth that are read back, whatever
their texts are. -/
def Fits : Nat → Node → Prop
  | _, .text _ => True
  | _, .integer _ => True
  | 0, .sequence items => items = []
  | depth + 1, .sequence items => ∀ item ∈ items, Fits depth item
  | 0, .mapping fields => fields = []
  | depth + 1, .mapping fields =>
    AreKeys (fields.map Prod.fst) ∧ ∀ f ∈ fields, Fits depth f.2

/-- What fits is read behind a key and behind a dash. -/
theorem reads_of_fits {depth : Nat} {value : Node} (h : Fits depth value)
    {indent : Nat} (hw : indent + 2 * depth + 2 < width) :
    ReadsAfterKey indent value ∧ ReadsAfterDash indent value := by
  induction depth generalizing value indent with
  | zero =>
    cases value with
    | text s => exact reads_text hw s
    | integer n => exact reads_integer indent n
    | sequence items =>
      obtain rfl : items = [] := h
      exact reads_sequence_nil indent
    | mapping fields =>
      obtain rfl : fields = [] := h
      exact reads_mapping_nil indent
  | succ depth ih =>
    cases value with
    | text s => exact reads_text (by omega) s
    | integer n => exact reads_integer indent n
    | sequence items =>
      cases items with
      | nil => exact reads_sequence_nil indent
      | cons item rest =>
        exact reads_sequence_cons fun m _ hm v hv => (ih (h v hv) (by omega)).2
    | mapping fields =>
      cases fields with
      | nil => exact reads_mapping_nil indent
      | cons field rest =>
        exact reads_mapping_cons h.1 fun f hf => (ih (h.2 f hf) (by omega)).1

/-- A document reads as what was written. -/
theorem read_document {depth : Nat} (hw : 2 * depth + 2 < width)
    {fields : List (String × Node)} (hne : fields ≠ [])
    (h : Fits (depth + 1) (.mapping fields)) :
    read (Node.document fields) = some (.mapping fields) := by
  have hread := @readFields_renderFields 0 [] (within_nil 0) rfl fields hne h.1
    (fun f hf => (reads_of_fits (h.2 f hf) (by omega)).1) _ (Nat.le_refl _)
  have htext :
      (Node.document fields).toList = renderFields 0 true fields ++ [] := by
    obtain ⟨⟨key, value⟩, rest, rfl⟩ := List.exists_cons_of_ne_nil hne
    have hkey : IsKey key := h.1.cons.1
    rw [Node.document, String.toList_ofList, renderFields_false hkey,
      List.append_nil]
    rfl
  rw [read, htext, hread]

end SingleNode.Yaml.Reader
