/-
Characters that turn into a URI delimiter under compatibility normalisation (Unicode 14), such as
the full-width solidus. A host with one of them could name another host once it is normalised.
-/
namespace JmsNaming.Text

/-- The code points beyond ASCII whose normal form has one of `/ ? # @ :`. -/
def disguisedDelimiters : List Nat :=
  [0x2047, 0x2048, 0x2049, 0x2100, 0x2101, 0x2105, 0x2106, 0x2a74, 0xfe13, 0xfe16, 0xfe55, 0xfe56,
    0xfe5f, 0xfe6b, 0xff03, 0xff0f, 0xff1a, 0xff1f, 0xff20]

def isDisguisedDelimiter (c : Char) : Bool :=
  disguisedDelimiters.contains c.toNat

end JmsNaming.Text
