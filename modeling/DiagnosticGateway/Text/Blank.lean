/-!
# Blank characters

The characters that count as white space, as the Unicode property of that name lists them.
Texts are trimmed and cleaned of these and of no others; the zero width space is not one.
-/

namespace DiagnosticGateway.Text

/-- The numbers of the blank characters. -/
def blanks : List Nat :=
  [0x9, 0xA, 0xB, 0xC, 0xD, 0x20, 0x85, 0xA0, 0x1680, 0x2000, 0x2001, 0x2002, 0x2003, 0x2004,
    0x2005, 0x2006, 0x2007, 0x2008, 0x2009, 0x200A, 0x2028, 0x2029, 0x202F, 0x205F, 0x3000]

/-- Whether a character is white space. -/
def isBlank (char : Char) : Bool :=
  blanks.contains char.toNat

/-- A text without its blank characters. -/
def withoutBlanks (text : String) : String :=
  String.ofList (text.toList.filter fun char => !isBlank char)

/-- Whether a text has no character but blank ones. -/
def isAllBlank (text : String) : Bool :=
  text.toList.all isBlank

end DiagnosticGateway.Text
