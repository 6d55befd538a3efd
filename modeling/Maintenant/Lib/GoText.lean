/-
  File:      Maintenant/Lib/GoText.lean
  Subject:   GO'S STRING FUNCTIONS on texts as lists of characters: prefixes and suffixes, cuts,
             white space, folding of ASCII letters. No program fact.
-/
import Mathlib.Data.List.Infix

namespace GoText

/-- `strings.HasPrefix`. -/
def hasPrefix (s p : String) : Bool := p.toList.isPrefixOf s.toList

/-- `strings.HasSuffix`. -/
def hasSuffix (s p : String) : Bool := p.toList.isSuffixOf s.toList

/-- `strings.Contains`. -/
def contains (s sub : String) : Bool := decide (sub.toList <:+: s.toList)

/-- `strings.TrimPrefix`. -/
def trimPrefix (s p : String) : String :=
  if hasPrefix s p then String.ofList (s.toList.drop p.toList.length) else s

/-- `strings.ToLower` of an ASCII text. -/
def toLower (s : String) : String := String.ofList (s.toList.map Char.toLower)

/-- `strings.EqualFold` of ASCII texts. -/
def equalFold (a b : String) : Bool := toLower a == toLower b

/-- The text at both sides of a position. -/
def cutAt (s : String) (i : Nat) : String × String :=
  (String.ofList (s.toList.take i), String.ofList (s.toList.drop i))

/-- Where the first occurrence of a list starts. -/
def indexOf (sub : List Char) : List Char → Option Nat
  | [] => if sub.isEmpty then some 0 else none
  | c :: cs => if sub.isPrefixOf (c :: cs) then some 0 else (indexOf sub cs).map Nat.succ

/-- `strings.Index`. -/
def index (s sub : String) : Option Nat := indexOf sub.toList s.toList

/-- `strings.LastIndex` of one character. -/
def lastIndex (s : String) (c : Char) : Option Nat :=
  (s.toList.reverse.findIdx? fun d => d == c).map fun i => s.toList.length - 1 - i

/-- `unicode.IsSpace`. -/
def isSpace (c : Char) : Bool :=
  let n := c.toNat
  (9 ≤ n && n ≤ 13) || n == 0x20 || n == 0x85 || n == 0xa0 || n == 0x1680 ||
    (0x2000 ≤ n && n ≤ 0x200a) || n == 0x2028 || n == 0x2029 || n == 0x202f || n == 0x205f ||
    n == 0x3000

/-- `strings.TrimSpace`. -/
def trimSpace (s : String) : String :=
  String.ofList ((s.toList.dropWhile isSpace).reverse.dropWhile isSpace).reverse

end GoText
