import DataMapper.Failure
import DataMapper.Number.Parse
import DataMapper.Text.CharName
import DataMapper.Text.Identifier
import DataMapper.Text.Letter
import DataMapper.Text.Quote

namespace DataMapper.Regex

def maxRepeat : Nat := 4294967295

def maxGroups : Nat := 1073741823

/-- Pattern flags. -/
structure Flags where
  fold : Bool := false
  dotAll : Bool := false
  multiline : Bool := false
  verbose : Bool := false
  ascii : Bool := false
  unicode : Bool := false
  template : Bool := false

/-- A flag letter. -/
inductive Flag
  | fold
  | locale
  | multiline
  | dotAll
  | verbose
  | ascii
  | template
  | unicode
  deriving DecidableEq

def Flag.ofChar? : Char → Option Flag
  | 'i' => some .fold
  | 'L' => some .locale
  | 'm' => some .multiline
  | 's' => some .dotAll
  | 'x' => some .verbose
  | 'a' => some .ascii
  | 't' => some .template
  | 'u' => some .unicode
  | _ => none

def Flag.isType : Flag → Bool
  | .ascii | .locale | .unicode => true
  | _ => false

def Flag.isGlobal : Flag → Bool
  | .template => true
  | _ => false

def Flags.put (f : Flags) (on : Bool) : Flag → Flags
  | .fold => { f with fold := on }
  | .multiline => { f with multiline := on }
  | .dotAll => { f with dotAll := on }
  | .verbose => { f with verbose := on }
  | .ascii => { f with ascii := on }
  | .unicode => { f with unicode := on }
  | .template => { f with template := on }
  | .locale => f

/-- The flags inside a group that sets `add` and clears `del`: a type flag given replaces the
one in force. -/
def Flags.scoped (f : Flags) (add del : List Flag) : Flags :=
  let base := if add.any Flag.isType then { f with ascii := false, unicode := false } else f
  del.foldl (fun acc g => acc.put false g) (add.foldl (fun acc g => acc.put true g) base)

/-- One member of a bracketed class; characters are given by code point. -/
inductive ClassItem
  | single (c : Nat)
  | range (lo hi : Nat)
  | digit (neg : Bool)
  | word (neg : Bool)
  | space (neg : Bool)

/-- How a repetition prefers its counts: the most, the fewest, or the most without giving any
back. -/
inductive RepeatMode
  | greedy
  | lazy
  | possessive

def RepeatMode.opName : RepeatMode → String
  | .greedy => "MAX_REPEAT"
  | .lazy => "MIN_REPEAT"
  | .possessive => "POSSESSIVE_REPEAT"

/-- A pattern tree. -/
inductive Node
  | empty
  | char (c : Char) (fold ascii : Bool)
  | any (dotAll : Bool)
  | set (neg : Bool) (items : List ClassItem) (fold ascii : Bool)
  | cat (a b : Node)
  | alt (a b : Node)
  | rep (n : Node) (least : Nat) (most : Option Nat) (mode : RepeatMode)
  | lineStart (multiline : Bool)
  | lineEnd (multiline : Bool)
  | textStart
  | textEnd
  | boundary (neg ascii : Bool)
  | look (behind neg : Bool) (n : Node)
  | group (gid : Option Nat) (n : Node)
  | atomic (n : Node)
  | backref (gid lo hi : Nat) (fold ascii : Bool)
  | condition (gid : Nat) (yes no : Node)
  | never

def Node.isAnchor : Node → Bool
  | .lineStart _ | .lineEnd _ | .textStart | .textEnd | .boundary .. => true
  | _ => false

def Node.isRepeat : Node → Bool
  | .rep .. => true
  | _ => false

/-- The fewest and the most characters a node's matches take, capped at `maxRepeat`. -/
def Node.width : Node → Nat × Nat
  | .empty => (0, 0)
  | .char .. | .any _ | .set .. | .never => (1, 1)
  | .cat a b =>
    let (i, j) := a.width
    let (k, l) := b.width
    (min (i + k) (maxRepeat - 1), min (j + l) maxRepeat)
  | .alt a b =>
    let (i, j) := a.width
    let (k, l) := b.width
    (min i k, max j l)
  | .rep n least most _ =>
    let (i, j) := n.width
    (min (i * least) (maxRepeat - 1), min (j * most.getD maxRepeat) maxRepeat)
  | .lineStart _ | .lineEnd _ | .textStart | .textEnd | .boundary .. | .look .. => (0, 0)
  | .group _ n | .atomic n => n.width
  | .backref _ lo hi _ _ => (lo, hi)
  | .condition _ yes no =>
    let (i, j) := yes.width
    let (k, l) := no.width
    (min i k, max j l)

/-- The first reason, in reading order, that a read pattern cannot be used: a lookbehind whose
matches differ in length, or a repetition under the `t` flag. -/
def Node.unusable? (template : Bool) : Node → Option String
  | .cat a b | .alt a b | .condition _ a b => a.unusable? template <|> b.unusable? template
  | .rep n _ _ mode =>
    if template then some ("internal: unsupported template operator " ++ mode.opName)
    else n.unusable? template
  | .look true _ n =>
    let (lo, hi) := n.width
    if lo != hi then some "look-behind requires fixed-width pattern" else n.unusable? template
  | .look false _ n | .group _ n | .atomic n => n.unusable? template
  | _ => none

/-- Why a pattern is refused. -/
inductive PatternError
  /-- A malformed pattern, with where reading stopped. -/
  | malformed (reason : String) (position : Nat)
  /-- A pattern that reads but cannot be used. -/
  | unusable (reason : String)
  /-- A repetition count from `maxRepeat` on. -/
  | tooLarge
  /-- Flags of the whole pattern that exclude each other. -/
  | clashingFlags (reason : String)

/-- A reason with its position, and with its line and column when the pattern has several
lines (the column counts from one, after the last line break before the position). -/
def positionText (pattern : List Char) (reason : String) (pos : Nat) : String :=
  let base := reason ++ " at position " ++ toString pos
  if pattern.contains '\n' then
    let before := pattern.take pos
    let line := before.count '\n' + 1
    let column := match before.reverse.idxOf? '\n' with
      | some k => k + 1
      | none => pos + 1
    base ++ " (line " ++ toString line ++ ", column " ++ toString column ++ ")"
  else base

def PatternError.failure (pattern : List Char) : PatternError → Failure
  | .malformed reason pos => .raised "error" (positionText pattern reason pos)
  | .unusable reason => .raised "error" reason
  | .tooLarge => .overflow "the repetition number is too large"
  | .clashingFlags reason => .value reason

/-- A token of a pattern: a character, or a backslash and the character after it. -/
inductive Tok
  | plain (c : Char)
  | escaped (c : Char)
  deriving DecidableEq

def Tok.text : Tok → String
  | .plain c => String.singleton c
  | .escaped c => String.ofList ['\\', c]

def Tok.width : Tok → Nat
  | .plain _ => 1
  | .escaped _ => 2

/-- The reading position: the characters not yet read, and the position of the first. -/
structure Src where
  rest : List Char
  pos : Nat

/-- What reading has found about groups: the width of each group opened (none while it is
open; group zero stands for the whole pattern), the group names, the first group of the
lookbehind being read, and the groups that conditions name, with where. -/
structure Groups where
  widths : List (Option (Nat × Nat)) := [none]
  names : List (String × Nat) := []
  lookbehind : Option Nat := none
  conditions : List (Nat × Nat) := []

/-- The reader: the position, the flags of the whole pattern, and the groups. -/
structure Reader where
  src : Src
  flags : Flags := {}
  groups : Groups := {}

abbrev Reading := StateT Reader (Except PatternError)

def peek : Reading (Option Tok) := do
  match (← get).src.rest with
  | [] => pure none
  | '\\' :: c :: _ => pure (some (.escaped c))
  | c :: _ => pure (some (.plain c))

def tell : Reading Nat := do
  pure (← get).src.pos

def refuse {α : Type} (reason : String) (back : Nat) : Reading α := do
  throw (.malformed reason ((← tell) - back))

def skip (n : Nat) : Reading Unit := do
  let r ← get
  let rest := r.src.rest.drop n
  let pos := r.src.pos + n
  if rest == ['\\'] then throw (.malformed "bad escape (end of pattern)" pos)
  set { r with src := ⟨rest, pos⟩ }

def take : Reading (Option Tok) := do
  match ← peek with
  | some t =>
    skip t.width
    pure (some t)
  | none => pure none

def accept (c : Char) : Reading Bool := do
  if (← peek) == some (.plain c) then
    skip 1
    pure true
  else pure false

/-- Reads at most `n` characters while they satisfy `p`. -/
def takeChars (p : Char → Bool) : Nat → Reading (List Char)
  | 0 => pure []
  | n+1 => do
    match ← peek with
    | some (.plain c) =>
      if p c then
        skip 1
        pure (c :: (← takeChars p n))
      else pure []
    | _ => pure []

def left : Reading Nat := do
  pure ((← get).src.rest.length + 1)

/-- Reads a name up to the character `stop` (which is read too); `what` names it in refusals. -/
def readName (stop : Char) (what : String) : Nat → String → Reading String
  | 0, _ => refuse ("missing " ++ what) 0
  | fuel+1, acc => do
    match ← take with
    | none =>
      if acc.isEmpty then refuse ("missing " ++ what) 0
      else refuse ("missing " ++ String.singleton stop ++ ", unterminated name") acc.length
    | some t =>
      if t == .plain stop then
        if acc.isEmpty then refuse ("missing " ++ what) 1 else pure acc
      else readName stop what fuel (acc ++ t.text)

def isAsciiDigit (c : Char) : Bool := '0' ≤ c ∧ c ≤ '9'
def isOctDigit (c : Char) : Bool := '0' ≤ c ∧ c ≤ '7'
def isHexDigit (c : Char) : Bool :=
  isAsciiDigit c || ('a' ≤ c ∧ c ≤ 'f') || ('A' ≤ c ∧ c ≤ 'F')
def isAsciiLetter (c : Char) : Bool := ('a' ≤ c ∧ c ≤ 'z') || ('A' ≤ c ∧ c ≤ 'Z')

def digitsValue (base : Nat) (cs : List Char) : Nat :=
  cs.foldl (fun acc c =>
    let d := if isAsciiDigit c then c.toNat - 48
      else if 'a' ≤ c ∧ c ≤ 'f' then c.toNat - 87
      else c.toNat - 55
    acc * base + d) 0

def isScalar (n : Nat) : Bool := n < 0xD800 || (0xDFFF < n && n ≤ 0x10FFFF)

def literal (f : Flags) (n : Nat) : Node :=
  if isScalar n then .char (Char.ofNat n) f.fold f.ascii else .never

def hexEscape (c : Char) (n : Nat) : Reading Nat := do
  let ds ← takeChars isHexDigit n
  let text := String.ofList ('\\' :: c :: ds)
  if ds.length != n then refuse ("incomplete escape " ++ text) text.length
  else
    let v := digitsValue 16 ds
    if v > 0x10FFFF then refuse ("bad escape " ++ text) text.length else pure v

def namedEscape : Reading Nat := do
  if !(← accept '{') then refuse "missing \x7b" 0
  let name ← readName '}' "character name" (← left) ""
  match Text.charOfName? name with
  | some n => pure n
  | none => refuse ("undefined character name " ++ Text.quote name) (name.length + 4)

def groupCount : Reading Nat := do
  pure (← get).groups.widths.length

def isClosed (gid : Nat) : Reading Bool := do
  pure (match (← get).groups.widths[gid]? with
    | some (some _) => true
    | _ => false)

def widthOf (gid : Nat) : Reading (Nat × Nat) := do
  pure (((← get).groups.widths[gid]?).join.getD (0, 0))

def checkLookbehindRef (gid : Nat) : Reading Unit := do
  match (← get).groups.lookbehind with
  | none => pure ()
  | some first =>
    if !(← isClosed gid) then refuse "cannot refer to an open group" 0
    if gid ≥ first then refuse "cannot refer to group defined in the same lookbehind subpattern" 0

/-- A reference to a group by number, its digits written in `len` characters after the
backslash's token start. -/
def numberedRef (f : Flags) (gid len : Nat) : Reading Node := do
  if gid < (← groupCount) then
    if !(← isClosed gid) then refuse "cannot refer to an open group" len
    checkLookbehindRef gid
    let (lo, hi) ← widthOf gid
    pure (.backref gid lo hi f.fold f.ascii)
  else refuse ("invalid group reference " ++ toString gid) (len - 1)

/-- An escape starting with a digit from one to nine, outside brackets: a group reference of
one or two digits, or an octal character of three. -/
def digitEscape (f : Flags) (d : Char) : Reading Node := do
  match ← peek with
  | some (.plain e) =>
    if isAsciiDigit e then
      skip 1
      let twoDigits := (d.toNat - 48) * 10 + (e.toNat - 48)
      match ← peek with
      | some (.plain g) =>
        if isOctDigit d && isOctDigit e && isOctDigit g then
          skip 1
          let v := digitsValue 8 [d, e, g]
          if v > 255 then
            refuse ("octal escape value \\" ++ String.ofList [d, e, g] ++
              " outside of range 0-0o377") 4
          else pure (literal f v)
        else numberedRef f twoDigits 3
      | _ => numberedRef f twoDigits 3
    else numberedRef f (d.toNat - 48) 2
  | _ => numberedRef f (d.toNat - 48) 2

/-- The node an escape outside brackets stands for, its token `\c` read. -/
def outsideEscape (f : Flags) (c : Char) : Reading Node := do
  match c with
  | 'A' => pure .textStart
  | 'Z' => pure .textEnd
  | 'b' => pure (.boundary false f.ascii)
  | 'B' => pure (.boundary true f.ascii)
  | 'd' => pure (.set false [.digit false] f.fold f.ascii)
  | 'D' => pure (.set false [.digit true] f.fold f.ascii)
  | 'w' => pure (.set false [.word false] f.fold f.ascii)
  | 'W' => pure (.set false [.word true] f.fold f.ascii)
  | 's' => pure (.set false [.space false] f.fold f.ascii)
  | 'S' => pure (.set false [.space true] f.fold f.ascii)
  | 'a' => pure (literal f 7)
  | 'f' => pure (literal f 12)
  | 'n' => pure (literal f 10)
  | 'r' => pure (literal f 13)
  | 't' => pure (literal f 9)
  | 'v' => pure (literal f 11)
  | 'x' => do pure (literal f (← hexEscape 'x' 2))
  | 'u' => do pure (literal f (← hexEscape 'u' 4))
  | 'U' => do pure (literal f (← hexEscape 'U' 8))
  | 'N' => do pure (literal f (← namedEscape))
  | '0' => do
    let ds ← takeChars isOctDigit 2
    pure (literal f (digitsValue 8 ds))
  | d =>
    if isAsciiDigit d then digitEscape f d
    else if isAsciiLetter d then refuse ("bad escape \\" ++ String.singleton d) 2
    else pure (literal f d.toNat)

/-- What an escape inside brackets stands for: a character by code point, or a class escape. -/
inductive ClassCode
  | lit (n : Nat)
  | cat (item : ClassItem)

def ClassCode.members : ClassCode → List ClassItem
  | .lit n => [.single n]
  | .cat item => [item]

/-- What an escape inside brackets stands for, its token `\c` read. -/
def classEscape (c : Char) : Reading ClassCode := do
  match c with
  | 'a' => pure (.lit 7)
  | 'b' => pure (.lit 8)
  | 'f' => pure (.lit 12)
  | 'n' => pure (.lit 10)
  | 'r' => pure (.lit 13)
  | 't' => pure (.lit 9)
  | 'v' => pure (.lit 11)
  | 'd' => pure (.cat (.digit false))
  | 'D' => pure (.cat (.digit true))
  | 'w' => pure (.cat (.word false))
  | 'W' => pure (.cat (.word true))
  | 's' => pure (.cat (.space false))
  | 'S' => pure (.cat (.space true))
  | 'x' => do pure (.lit (← hexEscape 'x' 2))
  | 'u' => do pure (.lit (← hexEscape 'u' 4))
  | 'U' => do pure (.lit (← hexEscape 'U' 8))
  | 'N' => do pure (.lit (← namedEscape))
  | d =>
    if isOctDigit d then do
      let ds ← takeChars isOctDigit 2
      let v := digitsValue 8 (d :: ds)
      if v > 255 then
        refuse ("octal escape value \\" ++ String.ofList (d :: ds) ++ " outside of range 0-0o377")
          (2 + ds.length)
      else pure (.lit v)
    else if isAsciiDigit d || isAsciiLetter d then refuse ("bad escape \\" ++ String.singleton d) 2
    else pure (.lit d.toNat)

def classCode : Tok → Reading ClassCode
  | .escaped c => classEscape c
  | .plain c => pure (.lit c.toNat)

/-- Reads the members of a bracketed class up to its closing `]`, after `acc`; `here` is the
position of the opening `[`. A `]` right after the opening (and its `^`) is a member. -/
def classMembers (here : Nat) : Nat → List ClassItem → Reading (List ClassItem)
  | 0, _ => throw (.malformed "unterminated character set" here)
  | fuel+1, acc => do
    match ← take with
    | none => throw (.malformed "unterminated character set" here)
    | some this =>
      if this == .plain ']' && !acc.isEmpty then return acc
      let code1 ← classCode this
      if ← accept '-' then
        match ← take with
        | none => throw (.malformed "unterminated character set" here)
        | some that =>
          if that == .plain ']' then return acc ++ code1.members ++ [.single 45]
          let code2 ← classCode that
          let bad := "bad character range " ++ this.text ++ "-" ++ that.text
          let back := this.text.length + 1 + that.text.length
          match code1, code2 with
          | .lit lo, .lit hi =>
            if hi < lo then refuse bad back
            else classMembers here fuel (acc ++ [.range lo hi])
          | _, _ => refuse bad back
      else classMembers here fuel (acc ++ code1.members)

/-- Reads the counts of a `{m,n}` repetition after its `{` (`here` is the position after it);
`none`, having read nothing, when the brace is an ordinary character. -/
def braces (here : Nat) : Reading (Option (Nat × Option Nat)) := do
  let saved ← get
  if (← peek) == some (.plain '}') then return none
  let lo ← takeChars isAsciiDigit (← left)
  let hi ← do
    if ← accept ',' then takeChars isAsciiDigit (← left) else pure lo
  if !(← accept '}') then
    set saved
    return none
  let least := digitsValue 10 lo
  if !lo.isEmpty && least ≥ maxRepeat then throw .tooLarge
  if hi.isEmpty then return some (least, none)
  let most := digitsValue 10 hi
  if most ≥ maxRepeat then throw .tooLarge
  if most < least then throw (.malformed "min repeat greater than max repeat" here)
  pure (some (least, some most))

/-- Opens a group, named or not; gives its number. -/
def openGroup (name : Option String) : Reading Nat := do
  let r ← get
  let gid := r.groups.widths.length
  match name with
  | some n =>
    match r.groups.names.lookup n with
    | some old =>
      refuse ("redefinition of group name " ++ Text.quote n ++ " as group " ++ toString gid ++
        "; was group " ++ toString old) (n.length + 1)
    | none =>
      set { r with groups := { r.groups with
        widths := r.groups.widths ++ [none], names := r.groups.names ++ [(n, gid)] } }
  | none => set { r with groups := { r.groups with widths := r.groups.widths ++ [none] } }
  pure gid

def closeGroup (gid : Nat) (w : Nat × Nat) : Reading Unit :=
  modify fun r => { r with groups := { r.groups with widths := r.groups.widths.set gid (some w) } }

def tokIsLetter : Tok → Bool
  | .plain c => Text.isLetter c
  | .escaped _ => false

/-- Reads flag letters to set, the first `c` already read; stops after `)`, `-` or `:` and
gives it with the flags. -/
def flagsToSet : Nat → Char → List Flag → Reading (Char × List Flag)
  | 0, c, add => pure (c, add)
  | fuel+1, c, add => do
    match Flag.ofChar? c with
    | none => refuse "missing -, : or )" 0
    | some flag =>
      if flag == .locale then refuse "bad inline flags: cannot use 'L' flag with a str pattern" 0
      let add := add ++ [flag]
      if flag.isType && add.any (fun g => g.isType && g != flag) then
        refuse "bad inline flags: flags 'a', 'u' and 'L' are incompatible" 0
      match ← take with
      | none => refuse "missing -, : or )" 0
      | some t =>
        match t with
        | .plain d =>
          if d == ')' || d == '-' || d == ':' then pure (d, add)
          else if (Flag.ofChar? d).isSome then flagsToSet fuel d add
          else refuse (if tokIsLetter t then "unknown flag" else "missing -, : or )") 1
        | .escaped _ => refuse "missing -, : or )" 2

/-- Reads flag letters to clear, the first `c` already read, up to the `:` (read too). -/
def flagsToClear : Nat → Char → List Flag → Reading (List Flag)
  | 0, _, del => pure del
  | fuel+1, c, del => do
    match Flag.ofChar? c with
    | none => refuse "missing :" 0
    | some flag =>
      if flag.isType then refuse "bad inline flags: cannot turn off flags 'a', 'u' and 'L'" 0
      let del := del ++ [flag]
      match ← take with
      | none => refuse "missing :" 0
      | some t =>
        match t with
        | .plain ':' => pure del
        | .plain d =>
          if (Flag.ofChar? d).isSome then flagsToClear fuel d del
          else refuse (if tokIsLetter t then "unknown flag" else "missing :") 1
        | .escaped _ => refuse "missing :" 2

/-- Reads inline flags after `(?`, the first character `c` read: `none` for flags of the
whole pattern (which are then in force), or the flags a group sets and clears. -/
def inlineFlags (c : Char) : Reading (Option (List Flag × List Flag)) := do
  let fuel ← left
  let (stop, add) ← if c == '-' then pure ('-', []) else flagsToSet fuel c []
  if stop == ')' then
    modify fun r => { r with flags := add.foldl (fun acc g => acc.put true g) r.flags }
    return none
  if add.any Flag.isGlobal then refuse "bad inline flags: cannot turn on global flag" 1
  let del ← if stop == '-' then do
      match ← take with
      | none => refuse "missing flag" 0
      | some t =>
        match t with
        | .plain d =>
          if (Flag.ofChar? d).isSome then flagsToClear fuel d []
          else refuse (if tokIsLetter t then "unknown flag" else "missing flag") 1
        | .escaped _ => refuse "missing flag" 2
    else pure []
  if del.any Flag.isGlobal then refuse "bad inline flags: cannot turn off global flag" 1
  if add.any (del.contains ·) then refuse "bad inline flags: flag turned on and off" 1
  pure (some (add, del))

def seqNode (items : List Node) : Node :=
  items.foldl (fun acc n => match acc with
    | .empty => n
    | a => .cat a n) .empty

/-- What a parenthesis brings to a sequence: an item, nothing (a comment), or flags for the
whole pattern. -/
inductive Piece
  | item (n : Node)
  | nothing
  | global

def tooDeep {α : Type} : Reading α := refuse "pattern too deep" 0

def isVerboseBlank (c : Char) : Bool :=
  c == ' ' || c == '\t' || c == '\n' || c == '\r' || c == '\x0b' || c == '\x0c'

def skipComment : Nat → Reading Unit
  | 0 => pure ()
  | fuel+1 => do
    match ← take with
    | none => pure ()
    | some (.plain '\n') => pure ()
    | some _ => skipComment fuel

def skipGroupComment (start : Nat) : Nat → Reading Unit
  | 0 => throw (.malformed "missing ), unterminated comment" start)
  | fuel+1 => do
    match ← take with
    | none => throw (.malformed "missing ), unterminated comment" start)
    | some (.plain ')') => pure ()
    | some _ => skipGroupComment start fuel

mutual

/-- Reads alternatives up to a `)` or the end; `nested` counts the groups around (zero for the
whole pattern, whose later alternatives see the flags its start set). -/
def alternatives : Nat → Flags → Nat → Reading Node
  | 0, _, _ => tooDeep
  | fuel+1, f, nested => do
    let items ← sequence fuel f (nested + 1) (nested == 0) []
    moreAlternatives fuel f nested (seqNode items.reverse)

def moreAlternatives : Nat → Flags → Nat → Node → Reading Node
  | 0, _, _, _ => tooDeep
  | fuel+1, f, nested, acc => do
    if ← accept '|' then
      let f ← if nested == 0 then do pure (← get).flags else pure f
      let items ← sequence fuel f (nested + 1) false []
      moreAlternatives fuel f nested (.alt acc (seqNode items.reverse))
    else pure acc

/-- Reads items up to a `|`, a `)` or the end, after `items` (latest first); `first` when flags
for the whole pattern may still come. -/
def sequence : Nat → Flags → Nat → Bool → List Node → Reading (List Node)
  | 0, _, _, _, _ => tooDeep
  | fuel+1, f, nested, first, items => do
    match ← peek with
    | none => pure items
    | some (.plain '|') => pure items
    | some (.plain ')') => pure items
    | some (.escaped c) =>
      skip 2
      let n ← outsideEscape f c
      sequence fuel f nested first (n :: items)
    | some (.plain c) =>
      skip 1
      if f.verbose && isVerboseBlank c then sequence fuel f nested first items
      else if f.verbose && c == '#' then
        skipComment (← left)
        sequence fuel f nested first items
      else if c == '[' then
        let here := (← tell) - 1
        let neg ← accept '^'
        let members ← classMembers here (← left) []
        sequence fuel f nested first (.set neg members f.fold f.ascii :: items)
      else if c == '*' || c == '+' || c == '?' || c == '{' then
        let here ← tell
        let counts ← if c == '*' then pure (some (0, none))
          else if c == '+' then pure (some (1, none))
          else if c == '?' then pure (some (0, some 1))
          else braces here
        match counts with
        | none => sequence fuel f nested first (.char '{' f.fold f.ascii :: items)
        | some (least, most) =>
          match items with
          | [] => throw (.malformed "nothing to repeat" (here - 1))
          | last :: earlier =>
            if last.isAnchor then throw (.malformed "nothing to repeat" (here - 1))
            if last.isRepeat then throw (.malformed "multiple repeat" (here - 1))
            let mode ← do
              if ← accept '?' then pure RepeatMode.lazy
              else if ← accept '+' then pure RepeatMode.possessive
              else pure RepeatMode.greedy
            sequence fuel f nested first (.rep last least most mode :: earlier)
      else if c == '.' then sequence fuel f nested first (.any f.dotAll :: items)
      else if c == '^' then sequence fuel f nested first (.lineStart f.multiline :: items)
      else if c == '$' then sequence fuel f nested first (.lineEnd f.multiline :: items)
      else if c == '(' then
        let start := (← tell) - 1
        match ← parenthesis fuel f nested first items.isEmpty start with
        | .item n => sequence fuel f nested first (n :: items)
        | .nothing => sequence fuel f nested first items
        | .global => sequence fuel (← get).flags nested first items
      else sequence fuel f nested first (.char c f.fold f.ascii :: items)

/-- Reads what follows a `(` at `start`. -/
def parenthesis : Nat → Flags → Nat → Bool → Bool → Nat → Reading Piece
  | 0, _, _, _, _, _ => tooDeep
  | fuel+1, f, nested, first, noItems, start => do
    if !(← accept '?') then
      let gid ← openGroup none
      return .item (.group (some gid) (← content fuel f nested start (some gid)))
    match ← take with
    | none => refuse "unexpected end of pattern" 0
    | some (.escaped c) => refuse ("unknown extension ?\\" ++ String.singleton c) 3
    | some (.plain 'P') =>
      if ← accept '<' then
        let name ← readName '>' "group name" (← left) ""
        if !Text.isIdentifier name then
          refuse ("bad character in group name " ++ Text.quote name) (name.length + 1)
        let gid ← openGroup (some name)
        return .item (.group (some gid) (← content fuel f nested start (some gid)))
      if ← accept '=' then
        let name ← readName ')' "group name" (← left) ""
        if !Text.isIdentifier name then
          refuse ("bad character in group name " ++ Text.quote name) (name.length + 1)
        match (← get).groups.names.lookup name with
        | none => refuse ("unknown group name " ++ Text.quote name) (name.length + 1)
        | some gid =>
          if !(← isClosed gid) then refuse "cannot refer to an open group" (name.length + 1)
          checkLookbehindRef gid
          let (lo, hi) ← widthOf gid
          return .item (.backref gid lo hi f.fold f.ascii)
      match ← take with
      | none => refuse "unexpected end of pattern" 0
      | some t => refuse ("unknown extension ?P" ++ t.text) (t.text.length + 2)
    | some (.plain ':') => return .item (.group none (← content fuel f nested start none))
    | some (.plain '>') => return .item (.atomic (← content fuel f nested start none))
    | some (.plain '#') =>
      skipGroupComment start (← left)
      return .nothing
    | some (.plain '=') => return .item (.look false false (← assertion fuel f nested start))
    | some (.plain '!') => return .item (.look false true (← assertion fuel f nested start))
    | some (.plain '<') =>
      match ← take with
      | none => refuse "unexpected end of pattern" 0
      | some (.plain '=') => return .item (.look true false (← lookbehind fuel f nested start))
      | some (.plain '!') => return .item (.look true true (← lookbehind fuel f nested start))
      | some t => refuse ("unknown extension ?<" ++ t.text) (t.text.length + 2)
    | some (.plain '(') => return .item (← conditional fuel f nested start)
    | some (.plain c) =>
      if (Flag.ofChar? c).isSome || c == '-' then
        match ← inlineFlags c with
        | none =>
          if !first || !noItems then
            throw (.malformed "global flags not at the start of the expression" start)
          return .global
        | some (add, del) =>
          return .item (.group none (← content fuel (f.scoped add del) nested start none))
      refuse ("unknown extension ?" ++ String.singleton c) 2

def content : Nat → Flags → Nat → Nat → Option Nat → Reading Node
  | 0, _, _, _, _ => tooDeep
  | fuel+1, f, nested, start, gid => do
    let inner ← alternatives fuel f (nested + 1)
    if !(← accept ')') then throw (.malformed "missing ), unterminated subpattern" start)
    if let some g := gid then closeGroup g inner.width
    pure inner

def assertion : Nat → Flags → Nat → Nat → Reading Node
  | 0, _, _, _ => tooDeep
  | fuel+1, f, nested, start => content fuel f nested start none

/-- Reads a lookbehind's alternatives and its `)`; groups opened inside it are known as its
own while it is read. -/
def lookbehind : Nat → Flags → Nat → Nat → Reading Node
  | 0, _, _, _ => tooDeep
  | fuel+1, f, nested, start => do
    let outer := (← get).groups.lookbehind
    if outer.isNone then
      let n ← groupCount
      modify fun r => { r with groups := { r.groups with lookbehind := some n } }
    let inner ← alternatives fuel f (nested + 1)
    if outer.isNone then
      modify fun r => { r with groups := { r.groups with lookbehind := none } }
    if !(← accept ')') then throw (.malformed "missing ), unterminated subpattern" start)
    pure inner

/-- Reads a condition on a group, after `(?(`: the group's name or number and `)`, the
branch for a matched group, and after `|` the branch for one that did not match. -/
def conditional : Nat → Flags → Nat → Nat → Reading Node
  | 0, _, _, _ => tooDeep
  | fuel+1, f, nested, start => do
    let name ← readName ')' "group name" (← left) ""
    let gid ← if Text.isIdentifier name then
        match (← get).groups.names.lookup name with
        | some g => pure g
        | none => refuse ("unknown group name " ++ Text.quote name) (name.length + 1)
      else
        match readInteger name 10 with
        | .ok (.ofNat g) => do
          if g == 0 then refuse "bad group number" (name.length + 1)
          if g ≥ maxGroups then
            refuse ("invalid group reference " ++ toString g) (name.length + 1)
          let pos := (← tell) - name.length - 1
          modify fun r => { r with groups := { r.groups with
            conditions := if r.groups.conditions.any (·.1 == g) then r.groups.conditions
              else r.groups.conditions ++ [(g, pos)] } }
          pure g
        | _ => refuse ("bad character in group name " ++ Text.quote name) (name.length + 1)
    checkLookbehindRef gid
    let yes ← sequence fuel f (nested + 1) false []
    let no ← do
      if ← accept '|' then
        let items ← sequence fuel f (nested + 1) false []
        if (← peek) == some (.plain '|') then
          refuse "conditional backref with more than two branches" 0
        pure (seqNode items.reverse)
      else pure .empty
    if !(← accept ')') then throw (.malformed "missing ), unterminated subpattern" start)
    pure (.condition gid (seqNode yes.reverse) no)

end

/-- A read pattern: its tree, the flags of the whole pattern, and the number of its groups
(group zero, the whole match, included). -/
structure Pattern where
  node : Node
  flags : Flags
  groups : Nat

/-- Reads a whole pattern. -/
def parse (pattern : String) : Except PatternError Pattern := do
  let cs := pattern.toList
  if cs == ['\\'] then throw (.malformed "bad escape (end of pattern)" 0)
  let (node, r) ← (alternatives (8 * cs.length + 16) {} 0).run { src := ⟨cs, 0⟩ }
  if r.flags.ascii && r.flags.unicode then
    throw (.clashingFlags "ASCII and UNICODE flags are incompatible")
  if !r.src.rest.isEmpty then throw (.malformed "unbalanced parenthesis" r.src.pos)
  for (g, pos) in r.groups.conditions do
    if g ≥ r.groups.widths.length then
      throw (.malformed ("invalid group reference " ++ toString g) pos)
  match node.unusable? r.flags.template with
  | some why => throw (.unusable why)
  | none => pure ⟨node, r.flags, r.groups.widths.length⟩

end DataMapper.Regex
