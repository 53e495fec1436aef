/-
# Keys, lines and blocks

What a reader of blocks does at a line, told once for each way in which the line
can go on, and what the writer puts on the lines of a block.  A key is told from
a value by its colon, and an entry from a field by its dash.
-/
import SingleNode.Proofs.Yaml.Value

namespace SingleNode.Yaml.Reader

open Node (renderAfter renderItems renderFields)

/-! ## Keys -/

/-- A key stands plain and is never folded. -/
def IsKey (key : String) : Prop :=
  styleOf key.toList = .plain ∧ ' ' ∉ key.toList

instance (key : String) : Decidable (IsKey key) :=
  inferInstanceAs (Decidable (_ ∧ _))

namespace IsKey

variable {key : String} (h : IsKey key)

include h

theorem scalar_eq (indent column : Nat) :
    scalar indent column key.toList = key.toList := by
  rw [scalar, h.1]
  exact plainBody_of_not_mem h.2 indent column ' '

theorem plain :
    allowsPlain key.toList = true ∧ readsAsOther key.toList = false ∧
    key.toList ≠ [] := by
  rcases styleOf_cases key.toList with ⟨-, hp⟩ | ⟨hs, -⟩ | hs
  · exact hp
  · exact nomatch h.1.symm.trans hs
  · exact nomatch h.1.symm.trans hs

theorem startsPlain (rest : List Char) :
    startsPlain (key.toList ++ ':' :: rest) = true := by
  have hs :=
    @startsPlain_plainBody key.toList (':' :: rest)
    h.plain.1 h.plain.2.2 0 0 (by simp)
  rwa [plainBody_of_not_mem h.2] at hs

theorem readPlain {rest : List Char} (hr : rest.head?.all isBlank = true)
    (block : Option Nat) :
    readPlain block (.spaces 0) (key.toList ++ ':' :: rest) =
      some (key.toList, ':' :: rest) :=
  readPlain_line (stops_colon hr) h.2 (of_allowsPlain h.plain.1).1

theorem resolve : resolve key.toList = some (.text key) := by
  rw [resolve_of_not_other h.plain.2.1, String.ofList_toList]

theorem readKey {rest : List Char} (hr : rest.head?.all isBlank = true) :
    readKey (key.toList ++ ':' :: rest) = some (key, rest) := by
  simp [Reader.readKey, h.startsPlain, h.readPlain hr, h.resolve]

theorem readValue {rest : List Char} (hr : rest.head?.all isBlank = true)
    (block : Nat) :
    readValue block (key.toList ++ ':' :: rest) = none := by
  rw [Reader.readValue,
    readScalar_plain (h.startsPlain rest) (h.readPlain hr _) h.resolve]
  rfl

theorem exists_eq_cons : ∃ c cs, key.toList = c :: cs ∧ isBlank c = false := by
  obtain ⟨hp, -, hne⟩ := h.plain
  obtain ⟨c, cs, hc⟩ := List.exists_cons_of_ne_nil hne
  obtain ⟨hcs, -⟩ := of_allowsPlain hp
  have hmem : c ∈ key.toList := hc ▸ List.mem_cons_self
  exact ⟨c, cs, hc, isBlank_of_isPrintable (hcs.printable c hmem) fun hs =>
    h.2 (hs ▸ hmem)⟩

theorem isItem (rest : List Char) :
    isItem (key.toList ++ ':' :: rest) = false := by
  have hs := h.startsPlain rest
  unfold Reader.isItem
  split
  · rename_i cs hcs
    rw [hcs] at hs
    refine Bool.eq_false_iff.mpr fun hall => ?_
    cases cs with
    | nil => cases hs
    | cons c cs =>
      have hc : isBlank c = true := hall
      rw [Reader.startsPlain, List.head?_cons, Option.any_some, hc] at hs
      cases hs
  · rfl

end IsKey

/-- The keys of a mapping that is read back. -/
def AreKeys (names : List String) : Prop :=
  names.Nodup ∧ ∀ name ∈ names, IsKey name

instance (names : List String) : Decidable (AreKeys names) :=
  inferInstanceAs (Decidable (_ ∧ _))

theorem AreKeys.cons {name : String} {names : List String}
    (h : AreKeys (name :: names)) :
    IsKey name ∧ name ∉ names ∧ AreKeys names := by
  obtain ⟨hnew, hnodup⟩ := List.nodup_cons.mp h.1
  obtain ⟨hkey, hkeys⟩ := List.forall_mem_cons.mp h.2
  exact ⟨hkey, hnew, hnodup, hkeys⟩

/-! ## Steps of the reader -/

/-- No entry of a sequence follows at the given column. -/
def NoItem (column : Nat) (tail : List Char) : Prop :=
  ∀ body, lineAt column tail = some body → isItem body = false

theorem noItem_of_lineAt_eq_none {n : Nat} {tail : List Char}
    (h : lineAt n tail = none) :
    NoItem n tail := by
  intro body hb
  rw [h] at hb
  cases hb

section Steps

variable {fuel column next : Nat} {cs rest body tail : List Char}
  {items : List Node}
  {fields : List (String × Node)} {key : String} {value : Node}

theorem readAfterKey_sequence (hl : lineAt next rest = some body)
    (hi : isItem body = true) (hn : column ≤ next)
    (h : readItems fuel next body = some (items, tail)) :
    readAfterKey (fuel + 1) column ('\n' :: rest) =
      some (.sequence items, tail) := by
  rw [readAfterKey, nextColumn_of_lineAt hl, Nat.zero_add]
  simp only [hl, hi, h, Option.bind_eq_bind, Option.bind_some, if_true]
  rw [guard, if_pos hn]
  rfl

theorem readAfterKey_mapping (hl : lineAt next rest = some body)
    (hi : isItem body = false) (hn : column < next)
    (h : readFields fuel next body = some (fields, tail)) :
    readAfterKey (fuel + 1) column ('\n' :: rest) =
      some (.mapping fields, tail) := by
  rw [readAfterKey, nextColumn_of_lineAt hl, Nat.zero_add]
  simp only [hl, hi, h, Option.bind_eq_bind, Option.bind_some,
    Bool.false_eq_true, if_false]
  rw [guard, if_pos hn]
  rfl

theorem readAfterDash_sequence (hv : readValue column rest = none)
    (hi : isItem rest = true)
    (h : readItems fuel (column + 2) rest = some (items, tail)) :
    readAfterDash (fuel + 1) column (' ' :: rest) =
      some (.sequence items, tail) := by
  rw [readAfterDash, hv]
  simp only [hi, h, Option.bind_eq_bind, Option.bind_some, if_true]
  rfl

theorem readAfterDash_mapping (hv : readValue column rest = none)
    (hi : isItem rest = false)
    (h : readFields fuel (column + 2) rest = some (fields, tail)) :
    readAfterDash (fuel + 1) column (' ' :: rest) =
      some (.mapping fields, tail) := by
  rw [readAfterDash, hv]
  simp only [hi, h, Option.bind_eq_bind, Option.bind_some]
  rfl

theorem readItems_last (h : readAfterDash fuel column rest = some (value, tail))
    (hend : NoItem column tail) :
    readItems (fuel + 1) column ('-' :: rest) = some ([value], tail) := by
  rw [readItems]
  simp only [h, Option.bind_eq_bind, Option.bind_some]
  cases hl : lineAt column tail with
  | none => rfl
  | some body => simp [hend body hl]

theorem readItems_more (h : readAfterDash fuel column rest = some (value, cs))
    (hl : lineAt column cs = some body) (hi : isItem body = true)
    (hs : readItems fuel column body = some (items, tail)) :
    readItems (fuel + 1) column ('-' :: rest) =
      some (value :: items, tail) := by
  rw [readItems]
  simp only [h, hl, hi, hs, Option.bind_eq_bind, Option.bind_some, if_true]
  rfl

theorem readFields_last (hk : readKey cs = some (key, rest))
    (h : readAfterKey fuel column rest = some (value, tail))
    (hend : lineAt column tail = none) :
    readFields (fuel + 1) column cs = some ([(key, value)], tail) := by
  rw [readFields, hk]
  simp only [h, hend, Option.bind_eq_bind, Option.bind_some]
  rfl

theorem readFields_more {next : List Char} (hk : readKey cs = some (key, rest))
    (h : readAfterKey fuel column rest = some (value, next))
    (hl : lineAt column next = some body)
    (hs : readFields fuel column body = some (fields, tail))
    (hnew : key ∉ fields.map Prod.fst) :
    readFields (fuel + 1) column cs = some ((key, value) :: fields, tail) := by
  rw [readFields, hk]
  simp only [h, hl, hs, Option.bind_eq_bind, Option.bind_some]
  rw [guard, if_pos hnew]
  rfl

end Steps

/-! ## Lines of the writer -/

theorem renderAfter_key (indent column : Nat) (value : Node)
    (tail : List Char) :
    (renderAfter indent column true value ++ tail).head?.all isBlank =
      true := by
  cases value with
  | text | integer => rfl
  | sequence items => cases items <;> rfl
  | mapping fields => cases fields <;> rfl

theorem renderAfter_dash (indent column : Nat) (value : Node) :
    ∃ cs, renderAfter indent column false value = ' ' :: cs := by
  cases value with
  | text | integer => exact ⟨_, rfl⟩
  | sequence items => cases items <;> exact ⟨_, rfl⟩
  | mapping fields => cases fields <;> exact ⟨_, rfl⟩

theorem renderItems_true (indent : Nat) (item : Node) (rest : List Node) :
    renderItems indent true (item :: rest) =
      '-' ::
        (renderAfter indent (indent + 1) false item ++
        renderItems indent false rest) := by
  rw [renderItems, if_pos rfl]
  rfl

theorem renderItems_false (indent : Nat) (item : Node) (rest : List Node) :
    renderItems indent false (item :: rest) =
      List.replicate indent ' ' ++ renderItems indent true (item :: rest) := by
  rw [renderItems_true, renderItems]
  simp

theorem renderFields_true {key : String} (h : IsKey key) (indent : Nat)
    (value : Node) (rest : List (String × Node)) :
    renderFields indent true ((key, value) :: rest) = key.toList ++ ':' ::
      (renderAfter indent (indent + key.toList.length + 1) true value ++
        renderFields indent false rest) := by
  rw [renderFields, if_pos rfl, h.scalar_eq]
  simp

theorem renderFields_false {key : String} (h : IsKey key) (indent : Nat)
    (value : Node) (rest : List (String × Node)) :
    renderFields indent false ((key, value) :: rest) =
      List.replicate indent ' ' ++ renderFields indent true
        ((key, value) :: rest) := by
  rw [renderFields_true h, renderFields, h.scalar_eq]
  simp

theorem isItem_renderItems (indent : Nat) (item : Node) (rest : List Node)
    (tail : List Char) :
    isItem (renderItems indent true (item :: rest) ++ tail) = true := by
  obtain ⟨cs, hcs⟩ := renderAfter_dash indent (indent + 1) item
  rw [renderItems_true, hcs]
  rfl

theorem line_renderItems (indent : Nat) (item : Node) (rest : List Node)
    (tail : List Char) :
    Within indent (renderItems indent false (item :: rest) ++ tail) ∧
      lineAt indent (renderItems indent false (item :: rest) ++ tail) =
        some (renderItems indent true (item :: rest) ++ tail) := by
  rw [renderItems_false, renderItems_true, List.append_assoc, List.cons_append]
  exact ⟨within_replicate (by decide) indent _,
    lineAt_replicate (by decide) indent _⟩

theorem line_renderFields {key : String} (h : IsKey key) (indent : Nat)
    (value : Node) (rest : List (String × Node)) (tail : List Char) :
    Within indent (renderFields indent false ((key, value) :: rest) ++ tail) ∧
      lineAt indent (renderFields indent false ((key, value) :: rest) ++ tail) =
        some (renderFields indent true ((key, value) :: rest) ++ tail) := by
  obtain ⟨c, cs, hc, hb⟩ := h.exists_eq_cons
  rw [renderFields_false h, renderFields_true h, hc, List.append_assoc,
    List.append_assoc, List.cons_append]
  exact ⟨within_replicate hb indent _, lineAt_replicate hb indent _⟩

theorem isItem_renderFields {key : String} (h : IsKey key) (indent : Nat)
    (value : Node) (rest : List (String × Node)) (tail : List Char) :
    isItem (renderFields indent true ((key, value) :: rest) ++ tail) =
      false := by
  rw [renderFields_true h, List.append_assoc, List.cons_append]
  exact h.isItem _

end SingleNode.Yaml.Reader
