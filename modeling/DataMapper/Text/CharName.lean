import DataMapper.Text.RangeTable
import DataMapper.Text.NameTable

namespace DataMapper.Text

/-- The digits of word numbers in the name table: the first 43 end a number, the other 43
stand before its last digit. -/
def nameDigits : List Char :=
  "!#$%&()*+,-./0123456789;<=>?@ABCDEFGHIJKLMNOPQRSTUVWXYZ[]^_abcdefghijklmnopqrstuvwxyz|".toList

def wordCode (i : Nat) : List Char :=
  go (i / 43) [nameDigits.getD (i % 43) ' ']
where
  go (q : Nat) (acc : List Char) : List Char :=
    if q = 0 then acc
    else go ((q - 1) / 43) (nameDigits.getD (43 + (q - 1) % 43) ' ' :: acc)
  termination_by q
  decreasing_by omega

def upperAscii (s : String) : String :=
  s.map fun c => if 'a' ≤ c ∧ c ≤ 'z' then Char.ofNat (c.toNat - 32) else c

/-- The code point of a name in the name table. -/
def listedName? (name : String) : Option Nat := do
  let wordList := NameTable.words.splitOn " "
  let nums ← ((upperAscii name).splitOn " ").mapM fun w => wordList.idxOf? w
  let code := String.ofList (nums.flatMap wordCode)
  let step := fun (st : Int × Option Nat) (line : String) =>
    match st.2 with
    | some _ => st
    | none =>
      let (gap, body) := match line.splitOn ":" with
        | [g, b] => (Int.ofNat ((readHex? g).getD 1), b)
        | _ => ((1 : Int), line)
      let cp := st.1 + gap
      (cp, if body == code then some cp.toNat else none)
  ((NameTable.entries.splitOn "\n").foldl step (-1, none)).2

def unifiedIdeographs : List (Nat × Nat) :=
  [(0x3400, 0x4DBF), (0x4E00, 0x9FFF), (0x20000, 0x2A6DF), (0x2A700, 0x2B738),
   (0x2B740, 0x2B81D), (0x2B820, 0x2CEA1), (0x2CEB0, 0x2EBE0), (0x30000, 0x3134A)]

def ideographOfDigits? (ds : List Char) : Option Nat := do
  if ds.length != 4 && ds.length != 5 then none
  let v ← ds.foldlM (fun acc c =>
    if '0' ≤ c ∧ c ≤ '9' then some (acc * 16 + (c.toNat - 48))
    else if 'A' ≤ c ∧ c ≤ 'F' then some (acc * 16 + (c.toNat - 55))
    else none) 0
  if unifiedIdeographs.any (fun (lo, hi) => lo ≤ v ∧ v ≤ hi) then some v else none

def leadJamo : List String :=
  ["G", "GG", "N", "D", "DD", "R", "M", "B", "BB", "S", "SS", "", "J", "JJ", "C", "K", "T", "P",
   "H"]

def vowelJamo : List String :=
  ["A", "AE", "YA", "YAE", "EO", "E", "YEO", "YE", "O", "WA", "WAE", "OE", "YO", "U", "WEO", "WE",
   "WI", "YU", "EU", "YI", "I"]

def tailJamo : List String :=
  ["", "G", "GG", "GS", "N", "NJ", "NH", "D", "L", "LG", "LM", "LB", "LS", "LT", "LP", "LH", "M",
   "B", "BS", "S", "SS", "NG", "J", "C", "K", "T", "P", "H"]

/-- The longest of `names` that starts `cs` (the first of equal length), with its length and
index. -/
def longestJamo (names : List String) (cs : List Char) : Option (Nat × Nat) :=
  names.zipIdx.foldl (fun best (s, i) =>
    let len := s.length
    let longer := match best with
      | some (l, _) => len > l
      | none => true
    if longer && cs.take len == s.toList then some (len, i) else best) none

def hangulOfParts? (cs : List Char) : Option Nat := do
  let (l1, lead) ← longestJamo leadJamo cs
  let cs := cs.drop l1
  let (l2, vowel) ← longestJamo vowelJamo cs
  let cs := cs.drop l2
  let (l3, tail) ← longestJamo tailJamo cs
  if cs.length == l3 then some (0xAC00 + (lead * 21 + vowel) * 28 + tail) else none

def charOfName? (name : String) : Option Nat :=
  let cs := name.toList
  let ideograph := "CJK UNIFIED IDEOGRAPH-".toList
  let syllable := "HANGUL SYLLABLE ".toList
  if name.utf8ByteSize > 256 then none
  else if cs.take ideograph.length == ideograph then ideographOfDigits? (cs.drop ideograph.length)
  else if cs.take syllable.length == syllable then hangulOfParts? (cs.drop syllable.length)
  else listedName? name

end DataMapper.Text
