import SharedChannel.Text.CodePoints

/-!
Blank characters: the separators and the bidirectional white space of Unicode, with the four
information separators of ASCII. `trimBlanks` drops them on the right, `dropBlanks` on the left.
-/

namespace SharedChannel.Text

def blank : CodePoints where
  boundaries := [
    0x9, 0xe, 0x1c, 0x21, 0x85, 0x86, 0xa0, 0xa1, 0x1680, 0x1681, 0x2000, 0x200b, 0x2028, 0x202a,
    0x202f, 0x2030, 0x205f, 0x2060, 0x3000, 0x3001]

def isBlank (c : Char) : Bool := blank.contains c

def dropBlanks (cs : List Char) : List Char := cs.dropWhile isBlank

def trimBlanks (cs : List Char) : List Char := (cs.reverse.dropWhile isBlank).reverse

end SharedChannel.Text
