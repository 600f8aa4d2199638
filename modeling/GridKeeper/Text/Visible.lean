import GridKeeper.Text.Mark
import GridKeeper.Text.Unassigned

/-!
# Characters that can be shown as they are

A character is visible when it stands for itself on a page: it is neither a control, a format
character, a separator other than the plain space, a filler that is drawn as nothing, an
unassigned or private-use code point, nor a mark that attaches to the character before it.
-/
namespace GridKeeper.Text

/-- Controls, format characters, separators and fillers, in ascending order. -/
def blindRanges : List (Nat × Nat) := [
  (0x0, 0x1f), (0x7f, 0xa0), (0xad, 0xad), (0x600, 0x605), (0x61c, 0x61c), (0x6dd, 0x6dd),
  (0x70f, 0x70f), (0x890, 0x891), (0x8e2, 0x8e2), (0x115f, 0x1160), (0x1680, 0x1680),
  (0x180e, 0x180e), (0x2000, 0x200f), (0x2028, 0x202f), (0x205f, 0x2064), (0x2066, 0x206f),
  (0x3000, 0x3000), (0x3164, 0x3164), (0xfeff, 0xfeff), (0xffa0, 0xffa0), (0xfff9, 0xfffb),
  (0x110bd, 0x110bd), (0x110cd, 0x110cd), (0x13430, 0x1343f), (0x1bca0, 0x1bca3),
  (0x1d173, 0x1d17a), (0xe0001, 0xe0001), (0xe0020, 0xe007f)]

/-- Whether the character can be shown as it is. -/
def isVisible (c : Char) : Bool :=
  !inRanges c.toNat blindRanges && !isAttached c && !isUnassigned c

end GridKeeper.Text
