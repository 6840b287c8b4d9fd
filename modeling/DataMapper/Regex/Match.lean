import DataMapper.Regex.Syntax
import DataMapper.Text.Case

namespace DataMapper.Regex

abbrev Positions := List Nat

def union : Positions → Positions → Positions
  | [], ys => ys
  | xs, [] => xs
  | x :: xs, y :: ys =>
    if x < y then x :: union xs (y :: ys)
    else if y < x then y :: union (x :: xs) ys
    else x :: union xs ys

/-- The positions reached by exactly `k` rounds of `step`; stops early at nothing or at a set
that a round leaves unchanged. -/
def rounds (step : Positions → Positions) : Nat → Positions → Positions
  | 0, ps => ps
  | k+1, ps =>
    if ps.isEmpty then ps
    else
      let next := step ps
      if next == ps then ps else rounds step k next

def mark (seen : Array Bool) (ps : Positions) : Array Bool :=
  ps.foldl (fun acc i => acc.setIfInBounds i true) seen

/-- The positions reached by at most `k` further rounds of `step` from `frontier`, put before
`found`; `seen` marks the positions reached so far. A round goes on only from the positions it
reaches first, and the search stops at a round that reaches none. -/
def upTo (step : Positions → Positions) : Nat → Array Bool → List Nat → Positions → List Nat
  | 0, _, found, _ => found
  | k+1, seen, found, frontier =>
    let fresh := (step frontier).filter fun i => !seen.getD i false
    if fresh.isEmpty then found else upTo step k (mark seen fresh) (fresh ++ found) fresh

/-- The ends of `least` to `most` rounds of `step`, with `limit` a bound on the number of
rounds that can bring a new position and on the positions themselves. -/
def repeated (step : Positions → Positions) (least : Nat) (most : Option Nat) (limit : Nat)
    (ps : Positions) : Positions :=
  let base := rounds step least ps
  let budget := match most with
    | some m => min (m - least) limit
    | none => limit
  (upTo step budget (mark (Array.replicate limit false) base) base base).mergeSort (· ≤ ·)

abbrev Subject := Array Char

/-- Lowercase letters that case folding also treats as one letter, although their lowercase
forms differ. -/
def foldClasses : List (List Nat) :=
  [[0x69, 0x131], [0x73, 0x17f], [0xb5, 0x3bc], [0x345, 0x3b9, 0x1fbe], [0x390, 0x1fd3],
   [0x3b0, 0x1fe3], [0x3b2, 0x3d0], [0x3b5, 0x3f5], [0x3b8, 0x3d1], [0x3ba, 0x3f0],
   [0x3c0, 0x3d6], [0x3c1, 0x3f1], [0x3c2, 0x3c3], [0x3c6, 0x3d5], [0x432, 0x1c80],
   [0x434, 0x1c81], [0x43e, 0x1c82], [0x441, 0x1c83], [0x442, 0x1c84, 0x1c85],
   [0x44a, 0x1c86], [0x463, 0x1c87], [0x1c88, 0xa64b], [0x1e61, 0x1e9b], [0xfb05, 0xfb06]]

/-- A character's lowercase for matching without regard to case: of ASCII letters only, or of
every cased character. -/
def lowerFor (ascii : Bool) (c : Char) : Char :=
  if ascii then (if 'A' ≤ c ∧ c ≤ 'Z' then Char.ofNat (c.toNat + 32) else c)
  else Text.simpleLower c

/-- The key that characters equal without regard to case share: the lowercase, or the first
letter of its class in `foldClasses` (which ASCII matching does not know). -/
def foldKey (ascii : Bool) (c : Char) : Nat :=
  let l := (lowerFor ascii c).toNat
  if ascii then l
  else
    match foldClasses.find? (·.contains l) with
    | some cls => cls.headD l
    | none => l

def sameChar (fold ascii : Bool) (a b : Char) : Bool :=
  a == b || (fold && foldKey ascii a == foldKey ascii b)

def asciiDigit (c : Char) : Bool := '0' ≤ c ∧ c ≤ '9'
def asciiWord (c : Char) : Bool := c.isAlphanum || c == '_'
def asciiSpace (c : Char) : Bool :=
  c == ' ' || c == '\t' || c == '\n' || c == '\r' || c == '\x0b' || c == '\x0c'

def wordChar (ascii : Bool) (c : Char) : Bool := if ascii then asciiWord c else Text.isWordChar c

def ClassItem.holds (ascii : Bool) (c : Char) : ClassItem → Bool
  | .single d => c.toNat == d
  | .range lo hi => lo ≤ c.toNat ∧ c.toNat ≤ hi
  | .digit neg => (if ascii then asciiDigit c else Text.isDecimalDigit c) != neg
  | .word neg => wordChar ascii c != neg
  | .space neg => (if ascii then asciiSpace c else Text.isBlank c) != neg

/-- The code points equal to `c` without regard to case: those whose lowercase shares its key
(under ASCII matching, an ASCII letter and its other case). -/
def foldMates (ascii : Bool) (c : Char) : List Nat :=
  if ascii then
    let l := (lowerFor true c).toNat
    if 97 ≤ l ∧ l ≤ 122 then [l, l - 32] else [l]
  else
    let key := foldKey false c
    ((foldClasses.find? (·.contains key)).getD [key]).flatMap Text.lowerPreimages

/-- Whether a class member holds a character without regard to case: a character member when
it holds one of the character's mates, a class escape when it holds its lowercase. -/
def ClassItem.holdsFolded (ascii : Bool) (c : Char) (mates : List Nat) : ClassItem → Bool
  | .single d => mates.contains d
  | .range lo hi => mates.any fun n => lo ≤ n ∧ n ≤ hi
  | item => item.holds ascii (lowerFor ascii c)

def classHolds (neg : Bool) (items : List ClassItem) (fold ascii : Bool) (c : Char) : Bool :=
  let hit :=
    if fold then
      let mates := foldMates ascii c
      items.any (·.holdsFolded ascii c mates)
    else items.any (·.holds ascii c)
  hit != neg

def advance (s : Subject) (p : Char → Bool) (ps : Positions) : Positions :=
  ps.filterMap fun i =>
    match s[i]? with
    | some c => if p c then some (i+1) else none
    | none => none

def atLineStart (s : Subject) (multiline : Bool) (i : Nat) : Bool :=
  i == 0 || (multiline && s[i-1]? == some '\n')

/-- Whether position `i` is at the end of a line: the end of the text, before a line break
that ends the text, or (across lines) before any line break. -/
def atLineEnd (s : Subject) (multiline : Bool) (i : Nat) : Bool :=
  i == s.size || (if multiline then s[i]? == some '\n' else i + 1 == s.size && s[i]? == some '\n')

def atBoundary (s : Subject) (ascii : Bool) (i : Nat) : Bool :=
  let before := i > 0 && (s[i-1]?.map (wordChar ascii)).getD false
  let after := (s[i]?.map (wordChar ascii)).getD false
  before != after

/-- Whether a word boundary assertion (or, negated, its opposite) holds at position `i`.
Neither holds anywhere in an empty text. -/
def boundaryHolds (s : Subject) (neg ascii : Bool) (i : Nat) : Bool :=
  s.size != 0 && atBoundary s ascii i != neg

/-- The ends of matches of a node started at the given positions. -/
def ends (s : Subject) : Node → Positions → Positions
  | .empty, ps => ps
  | .char c fold ascii, ps => advance s (sameChar fold ascii c) ps
  | .any dotAll, ps => advance s (fun c => dotAll || c != '\n') ps
  | .set neg items fold ascii, ps => advance s (classHolds neg items fold ascii) ps
  | .cat a b, ps => ends s b (ends s a ps)
  | .alt a b, ps => union (ends s a ps) (ends s b ps)
  | .rep n least most _, ps => repeated (ends s n) least most (s.size + 1) ps
  | .lineStart multiline, ps => ps.filter (atLineStart s multiline)
  | .lineEnd multiline, ps => ps.filter (atLineEnd s multiline)
  | .textStart, ps => ps.filter (· == 0)
  | .textEnd, ps => ps.filter (· == s.size)
  | .boundary neg ascii, ps => ps.filter (boundaryHolds s neg ascii)
  | .look false neg n, ps => ps.filter fun i => !(ends s n [i]).isEmpty != neg
  | .look true neg n, ps =>
    let w := n.width.1
    ps.filter fun i => (w ≤ i && (ends s n [i - w]).contains i) != neg
  | .group _ n, ps | .atomic n, ps => ends s n ps
  | .backref .., _ | .condition .., _ | .never, _ => []

/-- What a backtracking match has reached: the position, and the marks set at the starts and
ends of groups (group `g` has marks `2g` and `2g+1`). Marks from `top` on count as unset. -/
structure Memory where
  pos : Nat
  marks : Array (Option Nat)
  top : Nat

def Memory.setMark (m : Memory) (i : Nat) : Memory :=
  let cleared := (List.range' m.top (i - m.top)).foldl (fun a j => a.setIfInBounds j none) m.marks
  { m with marks := cleared.setIfInBounds i (some m.pos), top := max m.top (i + 1) }

def Memory.span (m : Memory) (g : Nat) : Option (Nat × Nat) :=
  if 2 * g + 1 ≥ m.top then none
  else
    match m.marks.getD (2 * g) none, m.marks.getD (2 * g + 1) none with
    | some p, some e => if e < p then none else some (p, e)
    | _, _ => none

def Memory.at (m : Memory) (i : Nat) : Memory := { m with pos := i }

def Node.charTest? : Node → Option (Char → Bool)
  | .char c fold ascii => some (sameChar fold ascii c)
  | .any dotAll => some fun c => dotAll || c != '\n'
  | .set neg items fold ascii => some (classHolds neg items fold ascii)
  | .group none n => n.charTest?
  | _ => none

def runLength (s : Subject) (p : Char → Bool) (i : Nat) : Nat → Nat
  | 0 => 0
  | limit+1 =>
    match s[i]? with
    | some c => if p c then runLength s p (i + 1) limit + 1 else 0
    | none => 0

def repeatsAt (s : Subject) (fold ascii : Bool) (p e i : Nat) : Bool :=
  i + (e - p) ≤ s.size &&
    (List.range (e - p)).all fun j =>
      let a := s.getD (p + j) ' '
      let b := s.getD (i + j) ' '
      a == b || (fold && lowerFor ascii a == lowerFor ascii b)

def below (count : Nat) (most : Option Nat) : Bool := most.all (count < ·)

mutual

/-- The first way, in the order of preference, that a node matches from the memory `m` and
lets the continuation `k` succeed; the result is what `k` gives. -/
def back (s : Subject) : Nat → Node → Memory → (Memory → Option Memory) → Option Memory
  | 0, _, _, _ => none
  | fuel+1, node, m, k =>
    match node with
    | .empty => k m
    | .cat a b => back s fuel a m fun m' => back s fuel b m' k
    | .alt a b => (back s fuel a m k).orElse fun _ => back s fuel b m k
    | .rep n least most mode =>
      match n.charTest? with
      | some p =>
        let run := runLength s p m.pos (most.getD s.size)
        if run < least then none
        else
          match mode with
          | .greedy => (List.range (run - least + 1)).findSome? fun j => k (m.at (m.pos + run - j))
          | .lazy => (List.range (run - least + 1)).findSome? fun j => k (m.at (m.pos + least + j))
          | .possessive => k (m.at (m.pos + run))
      | none =>
        match mode with
        | .greedy => greedy s fuel n least most 0 none m k
        | .lazy => lazy s fuel n least most 0 none m k
        | .possessive =>
          match possessive s fuel n least most 0 none m with
          | some m' => k m'
          | none => none
    | .lineStart multiline => if atLineStart s multiline m.pos then k m else none
    | .lineEnd multiline => if atLineEnd s multiline m.pos then k m else none
    | .textStart => if m.pos == 0 then k m else none
    | .textEnd => if m.pos == s.size then k m else none
    | .boundary neg ascii => if boundaryHolds s neg ascii m.pos then k m else none
    | .look behind neg n =>
      let w := if behind then n.width.1 else 0
      if m.pos < w then (if neg then k m else none)
      else
        match back s fuel n (m.at (m.pos - w)) some, neg with
        | some _, true => none
        | none, true => k m
        | some m', false => k (m'.at m.pos)
        | none, false => none
    | .group none n => back s fuel n m k
    | .group (some g) n => back s fuel n (m.setMark (2 * g)) fun m' => k (m'.setMark (2 * g + 1))
    | .atomic n =>
      match back s fuel n m some with
      | some m' => k m'
      | none => none
    | .backref g _ _ fold ascii =>
      match m.span g with
      | some (p, e) => if repeatsAt s fold ascii p e m.pos then k (m.at (m.pos + (e - p))) else none
      | none => none
    | .condition g yes no => if (m.span g).isSome then back s fuel yes m k else back s fuel no m k
    | .never => none
    | n =>
      match n.charTest?, s[m.pos]? with
      | some p, some c => if p c then k (m.at (m.pos + 1)) else none
      | _, _ => none

/-- Rounds of a greedy repetition after `count` rounds: another round first, while the count
allows and the last round (which started at `last`) moved; then the rest of the pattern. -/
def greedy (s : Subject) : Nat → Node → Nat → Option Nat → Nat → Option Nat → Memory →
    (Memory → Option Memory) → Option Memory
  | 0, _, _, _, _, _, _, _ => none
  | fuel+1, n, least, most, count, last, m, k =>
    if count < least then
      back s fuel n m fun m' =>
        greedy s fuel n least most (if m'.pos == m.pos then least else count + 1) last m' k
    else
      let more :=
        if below count most && last != some m.pos then
          back s fuel n m fun m' => greedy s fuel n least most (count + 1) (some m.pos) m' k
        else none
      more.orElse fun _ => k m

/-- Rounds of a lazy repetition after `count` rounds: the rest of the pattern first, then
another round while the count allows and the last round moved. -/
def lazy (s : Subject) : Nat → Node → Nat → Option Nat → Nat → Option Nat → Memory →
    (Memory → Option Memory) → Option Memory
  | 0, _, _, _, _, _, _, _ => none
  | fuel+1, n, least, most, count, last, m, k =>
    if count < least then
      back s fuel n m fun m' =>
        lazy s fuel n least most (if m'.pos == m.pos then least else count + 1) last m' k
    else
      (k m).orElse fun _ =>
        if below count most && last != some m.pos then
          back s fuel n m fun m' => lazy s fuel n least most (count + 1) (some m.pos) m' k
        else none

/-- Rounds of a possessive repetition after `count` rounds, each the first way the node
matches; the memory after the last round, or nothing when fewer than `least` rounds match. -/
def possessive (s : Subject) : Nat → Node → Nat → Option Nat → Nat → Option Nat → Memory →
    Option Memory
  | 0, _, _, _, _, _, _ => none
  | fuel+1, n, least, most, count, last, m =>
    if count < least then
      match back s fuel n m some with
      | some m' =>
        possessive s fuel n least most (if m'.pos == m.pos then least else count + 1) last m'
      | none => none
    else if below count most && last != some m.pos then
      match back s fuel n m some with
      | some m' => possessive s fuel n least most (count + 1) (some m.pos) m'
      | none => some m
    else some m

end

def Node.size : Node → Nat
  | .cat a b | .alt a b | .condition _ a b => a.size + b.size + 1
  | .rep n .. | .look _ _ n | .group _ n | .atomic n => n.size + 1
  | _ => 1

/-- Whether matching a node needs what groups matched or the order of its matches: it holds a
reference, a condition, an atomic group or a possessive repetition. -/
def Node.needsMemory : Node → Bool
  | .cat a b | .alt a b => a.needsMemory || b.needsMemory
  | .rep _ _ _ .possessive => true
  | .rep n .. | .look _ _ n | .group _ n => n.needsMemory
  | .atomic _ | .backref .. | .condition .. => true
  | _ => false

def Pattern.matches (pat : Pattern) (text : String) : Bool :=
  let s := text.toList.toArray
  if pat.node.needsMemory then
    let start : Memory := ⟨0, Array.replicate (2 * pat.groups) none, 0⟩
    let fuel := (pat.node.size + 2) * (s.size + 3)
    (back s fuel pat.node start fun m => if m.pos == s.size then some m else none).isSome
  else (ends s pat.node [0]).contains s.size

def fullMatch (pattern text : String) : Except Failure Bool :=
  match parse pattern with
  | .error e => .error (e.failure pattern.toList)
  | .ok pat => .ok (pat.matches text)

end DataMapper.Regex
