/-! # White space and blank text

White space is the Unicode property White_Space. Ids, codes and names may not be
blank, and texts that stand for numbers are read without the white space around them.
-/

namespace RecordApps.Text

/-- The Unicode property White_Space, as code point ranges with both ends included. -/
def spaceRanges : List (Nat × Nat) :=
  [(0x09, 0x0D), (0x20, 0x20), (0x85, 0x85), (0xA0, 0xA0), (0x1680, 0x1680), (0x2000, 0x200A),
   (0x2028, 0x2029), (0x202F, 0x202F), (0x205F, 0x205F), (0x3000, 0x3000)]

/-- Whether a code point lies in one of the ranges, both ends included. -/
def inRanges (ranges : List (Nat × Nat)) (c : Char) : Bool :=
  ranges.any fun (first, last) => first ≤ c.toNat && c.toNat ≤ last

/-- Whether a character is white space. -/
def isSpace (c : Char) : Bool :=
  inRanges spaceRanges c

/-- The characters from the first one that is not white space. -/
def trimStart (cs : List Char) : List Char :=
  cs.dropWhile isSpace

/-- The characters without the white space at both ends. -/
def trimChars (cs : List Char) : List Char :=
  (trimStart (trimStart cs).reverse).reverse

/-- Whether a text holds nothing but white space. -/
def isBlank (text : String) : Bool :=
  text.toList.all isSpace

/-- Whether one text occurs inside another. -/
def occursIn (needle : List Char) : List Char → Bool
  | [] => needle.isEmpty
  | c :: rest => needle.isPrefixOf (c :: rest) || occursIn needle rest

/-- The pieces of a text between the occurrences of a character. -/
def splitAt (separator : Char) : List Char → List (List Char)
  | [] => [[]]
  | c :: rest =>
      let pieces := splitAt separator rest
      if c = separator then [] :: pieces
      else match pieces with
        | [] => [[c]]
        | piece :: others => (c :: piece) :: others

/-- The text before and after the first occurrence of a character, if it occurs. -/
def splitOnce (separator : Char) (cs : List Char) : Option (List Char × List Char) :=
  match cs.span (· != separator) with
  | (before, _ :: after) => some (before, after)
  | (_, []) => none

/-- Whether a character is an ASCII letter or an underscore. -/
def isWordStart (c : Char) : Bool :=
  c.isAlpha || c = '_'

/-- Whether a character is an ASCII letter, an ASCII digit or an underscore. -/
def isWordChar (c : Char) : Bool :=
  c.isAlphanum || c = '_'

end RecordApps.Text
