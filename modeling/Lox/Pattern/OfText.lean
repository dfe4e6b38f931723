import Lox.Pattern.Reading
namespace Lox.Pattern

namespace Reading

open Text

structure Opened where
  start : Nat
  stop : Nat
  negated : Bool

def Opened.span (o : Opened) : Span := ⟨o.start, o.stop⟩

/-- The union of some members of a class. A bare one is a character or a range that has not been taken with
its other case yet. -/
structure Members where
  set : CharSet
  bare : Bool
  span : Span
  parts : List Outline

namespace Members

def none (at_ : Nat) : Members := ⟨.none, false, ⟨at_, at_⟩, []⟩

def add (m : Members) (set : CharSet) (bare : Bool) (span : Span) (part : Outline) : Members :=
  ⟨.union m.set set, m.bare || bare, ⟨if m.parts.isEmpty then span.start else m.span.start, span.stop⟩,
    m.parts ++ [part]⟩

def outline (m : Members) : Outline := .ofParts m.span m.parts

end Members

def settle (m : Members) (span : Span) : Reading CharSet :=
  if m.bare then withCase m.set span.start span.stop else return m.set

structure Pending where
  join : CharSet → CharSet → CharSet
  left : Members

def join (pending : Option Pending) (right : Members) : Reading Members := do
  match pending with
  | none => return right
  | some p =>
    let r ← settle right right.span
    let l ← settle p.left p.left.span
    let span : Span := ⟨p.left.span.start, right.span.stop⟩
    return ⟨p.join l r, false, span, [.node span [p.left.outline, right.outline]]⟩

def checkMember (c : Char) (isByte : Bool) (start stop : Nat) : Reading Unit := do
  if !(← modes).unicode && c.toNat ≥ 128 then
    regretAt (if isByte then .notText else .onlyAscii) start stop

def leadingDashes (start : Nat) : Nat → Members → Reading Members
  | 0, m => return m
  | n + 1, m => do
    if (← next?) != some '-' then return m
    let i ← place
    step
    if ← atEnd then failAt .openClass start start
    leadingDashes start n (m.add (.single '-') true ⟨i, i + 1⟩ .leaf)

/-- The bracket, a caret that negates, dashes, and a closing bracket that is a member since it comes first. -/
def openClass : Reading (Opened × Members) := do
  let start ← place
  step
  if ← atEnd then failFrom .openClass start
  let negated := (← next?) == some '^'
  if negated then
    step
    if ← atEnd then failFrom .openClass start
  let dashes ← leadingDashes start (← get).rest.length (.none (← place))
  if dashes.parts.isEmpty && (← next?) == some ']' then
    let i ← place
    step
    if ← atEnd then failFrom .openClass start
    return (⟨start, ← place, negated⟩, dashes.add (.single ']') true ⟨i, i + 1⟩ .leaf)
  return (⟨start, ← place, negated⟩, dashes)

def member : Reading Atom := do
  match ← next? with
  | some '\\' => escape
  | some c =>
    bump
    return .char c false
  | none => failHere .openClass

def peekSpace : Reading (Option Char) := do
  let s ← get
  let rest := s.rest.tail
  return (if s.modes.verbose then skipSpace false rest else rest).head?

def addRange (o : Opened) (m : Members) : Reading Members := do
  let start ← place
  let first ← member
  let stop ← place
  bumpSpace
  let ahead ← next?
  if ahead.isNone then throw ⟨.openClass, o.span, none⟩
  let behind ← peekSpace
  if ahead != some '-' || behind == some ']' || behind == some '-' then
    match first with
    | .char c isByte =>
      checkMember c isByte start stop
      return m.add (.single c) true ⟨start, stop⟩ .leaf
    | .set s => return m.add s false ⟨start, stop⟩ .leaf
    | .edge _ => failAt .badClassMember start stop
  else
    step
    if ← atEnd then throw ⟨.openClass, o.span, none⟩
    let start' ← place
    let last ← member
    let stop' ← place
    match first, last with
    | .char low lowByte, .char high highByte =>
      if high < low then failAt .reversedRange start stop'
      checkMember low lowByte start stop
      checkMember high highByte start' stop'
      return m.add (.range low high) true ⟨start, stop'⟩ .leaf
    | .char _ _, _ => failAt .badRangeEnd start' stop'
    | _, _ => failAt .badRangeEnd start stop

def members : Nat → Opened → Option Pending → Members → Reading (CharSet × Outline)
  | 0, o, _, _ => throw ⟨.openClass, o.span, none⟩
  | n + 1, o, pending, m => do
    bumpSpace
    let operator (op : CharSet → CharSet → CharSet) : Reading (CharSet × Outline) := do
      bump
      bump
      let left ← join pending m
      members n o (some ⟨op, left⟩) (.none (← place))
    match ← next?, ← second? with
    | none, _ => throw ⟨.openClass, o.span, none⟩
    | some ']', _ =>
      bump
      let m ← join pending m
      let span : Span := ⟨o.start, ← place⟩
      let s ← settle m span
      return (← negatedIf o.negated s o.start, .node span [m.outline])
    | some '[', _ =>
      let start ← place
      match ← asciiSet? with
      | some s => members n o pending (m.add s false ⟨start, ← place⟩ .leaf)
      | none =>
        let (inner, first) ← openClass
        let (s, outline) ← members n inner none first
        members n o pending (m.add s false ⟨start, ← place⟩ outline)
    | some '&', some '&' => operator .common
    | some '-', some '-' => operator .difference
    | some '~', some '~' => operator fun a b => .difference (.union a b) (.common a b)
    | some _, _ => do members n o pending (← addRange o m)

def bracketed : Reading (CharSet × Outline) := do
  let (o, first) ← openClass
  members ((← get).rest.length + 1) o none first

def Modes.with (m : Modes) (flag : Char) (on : Bool) : Modes :=
  match flag with
  | 'i' => { m with caseless := on }
  | 'm' => { m with manyLines := on }
  | 's' => { m with dotAll := on }
  | 'R' => { m with crlf := on }
  | 'u' => { m with unicode := on }
  | 'x' => { m with verbose := on }
  | _ => m

def isFlag (c : Char) : Bool := "imsURux".contains c

/-- Flags up to a colon or a closing parenthesis; those behind a dash are taken away. The flag `U` has no
effect on what is found. Says also whether there were any. -/
def flags : Nat → (seen : List (Char × Span)) → (dash : Option Span) → Modes → Reading (Modes × Bool)
  | 0, _, _, _ => failHere .flagsCut
  | n + 1, seen, dash, m => do
    let i ← place
    let here : Span := ⟨i, i + 1⟩
    match ← next? with
    | none => failHere .flagsCut
    | some ':' | some ')' =>
      match dash with
      | some d => if d.stop = i then throw ⟨.danglingNegation, d, none⟩
      | none => pure ()
      return (m, !seen.isEmpty)
    | some '-' =>
      if dash.isSome then throw ⟨.repeatedNegation, here, dash⟩
      bump
      if ← atEnd then failHere .flagsCut
      flags n seen (some here) m
    | some c =>
      if !isFlag c then failNext .unknownFlag
      match seen.lookup c with
      | some earlier => throw ⟨.repeatedFlag, here, some earlier⟩
      | none => pure ()
      bump
      if ← atEnd then failHere .flagsCut
      flags n (seen ++ [(c, here)]) dash (Modes.with m c dash.isNone)

def isNameStart (c : Char) : Bool := c = '_' || isAlphabetic c

def isNameChar (c : Char) : Bool :=
  isNameStart c || (Category.ofChar c).isNumber || c = '.' || c = '[' || c = ']'

def groupName : Reading Unit := do
  if ← atEnd then failHere .nameCut
  let start ← place
  let name := (← get).rest.takeWhile (· ≠ '>')
  let isGood := fun (c, i) => if i = 0 then isNameStart c else isNameChar c
  match name.zipIdx.find? fun p => !isGood p with
  | some (_, i) => failAt .badName (start + i) (start + i + 1)
  | none => pure ()
  modify fun s => { s with rest := s.rest.drop name.length }
  if ← atEnd then failHere .nameCut
  bump
  if name.isEmpty then failAt .noName start start
  let span : Span := ⟨start, start + name.length⟩
  let text := String.ofList name
  match (← get).names.lookup text with
  | some earlier => throw ⟨.repeatedName, span, some earlier⟩
  | none => modify fun s => { s with names := (text, span) :: s.names }

def openGroup : Reading (Modes × Bool) := do
  let start ← place
  bump
  bumpSpace
  for word in ["?=", "?!", "?<=", "?<!"] do
    if ← skip? word then failFrom .lookAround start
  let question ← place
  let m ← modes
  if ← (skip? "?P<" <||> skip? "?<") then
    groupName
    return (m, true)
  if ← skip? "?" then
    if ← atEnd then failAt .openGroup start (start + 1)
    let (m, any) ← flags ((← get).rest.length + 1) [] none m
    let closed := (← next?) == some ')'
    bump
    if closed && !any then failAt .nothingToRepeat question question
    return (m, !closed)
  return (m, true)

structure Item where
  pattern : Option Pattern
  span : Span
  outline : Outline

abbrev Items := List Item

def skipLazy : Reading Unit := do discard (skip? "?")

def Item.repeat (inner : Item) (p : Pattern) (least : Nat) (most : Option Nat) (stop : Nat) : Item :=
  let span : Span := ⟨inner.span.start, stop⟩
  ⟨some (.times p least most), span, .node span [inner.outline]⟩

def repeated (items : Items) (least : Nat) (most : Option Nat) : Reading Items := do
  match items with
  | item :: others =>
    match item.pattern with
    | none => failHere .nothingToRepeat
    | some p =>
      bump
      skipLazy
      return item.repeat p least most (← place) :: others
  | [] => failHere .nothingToRepeat

def counts (start : Nat) : Reading (Nat × Option Nat) := do
  step
  if ← atEnd then failFrom .openCount start
  let least ← decimal
  if ← atEnd then failFrom .openCount start
  if (← next?) == some ',' then
    step
    if ← atEnd then failFrom .openCount start
    if (← next?) == some '\x7d' then return (← least, none)
    let least ← least
    let most ← decimal
    return (least, some (← most))
  let n ← least
  return (n, some n)

def counted (items : Items) : Reading Items := do
  match items with
  | item :: others =>
    match item.pattern with
    | none => failHere .nothingToRepeat
    | some p =>
      let start ← place
      let (least, most) ← counts start
      if (← next?) != some '\x7d' then failFrom .openCount start
      step
      skipLazy
      if most.any (· < least) then failFrom .reversedCount start
      return item.repeat p least most (← place) :: others
  | [] => failHere .nothingToRepeat

structure Choices where
  start : Nat
  patterns : List Pattern
  outlines : List Outline

def Choices.add (c : Choices) (from_ : Nat) (items : Items) (stop : Nat) : Choices :=
  { c with
    patterns := (items.filterMap (·.pattern)).foldl (fun later p => .both p later) .empty :: c.patterns
    outlines := .ofParts ⟨from_, stop⟩ (items.reverse.map (·.outline)) :: c.outlines }

def Choices.pattern (c : Choices) : Pattern :=
  match c.patterns with
  | [] => .empty
  | last :: others => others.foldl (fun later p => .either p later) last

def Choices.outline (c : Choices) (stop : Nat) : Outline := .ofParts ⟨c.start, stop⟩ c.outlines.reverse

def dot (m : Modes) : CharSet :=
  if m.dotAll then .any
  else .complement (.ofRanges (('\n', '\n') :: if m.crlf then [('\r', '\r')] else []))

def simple : Reading Pattern := do
  let start ← place
  let m ← modes
  match ← next? with
  | some '.' =>
    bump
    if !m.unicode then regret .notText start
    return .one (dot m)
  | some '^' =>
    bump
    return .edge (if m.manyLines then .lineStart m.crlf else .textStart)
  | some '$' =>
    bump
    return .edge (if m.manyLines then .lineEnd m.crlf else .textEnd)
  | _ =>
    match ← member with
    | .edge e => return .edge e
    | .set s => return .one s
    | .char c isByte =>
      if isByte && !m.unicode && c.toNat ≥ 128 then regret .notText start
      return .one (← withCase (.single c) start (← place))

/-- Up to the end or the parenthesis that closes the group around; `from_` is where the choice began that is
being read. -/
def branches : Nat → (inGroup : Bool) → Choices → (from_ : Nat) → Items → Reading (Pattern × Outline)
  | 0, _, c, _, _ => return (c.pattern, .leaf)
  | n + 1, inGroup, c, from_, items => do
    bumpSpace
    let start ← place
    let finished : Reading (Pattern × Outline) := do
      let c := c.add from_ items start
      return (c.pattern, c.outline start)
    match ← next? with
    | none => finished
    | some ')' => if inGroup then finished else failNext .strayClose
    | some '|' =>
      bump
      branches n inGroup (c.add from_ items start) (start + 1) []
    | some '(' =>
      let outside ← modes
      let (inside, opened) ← openGroup
      setModes inside
      let body ← place
      if opened then
        let (p, outline) ← branches n true ⟨body, [], []⟩ body []
        if ← atEnd then failAt .openGroup start (start + 1)
        setModes outside
        bump
        let span : Span := ⟨start, ← place⟩
        branches n inGroup c from_ (⟨some p, span, .node span [outline]⟩ :: items)
      else branches n inGroup c from_ (⟨none, ⟨start, body⟩, .leaf⟩ :: items)
    | some '[' =>
      let (s, outline) ← bracketed
      branches n inGroup c from_ (⟨some (.one s), ⟨start, ← place⟩, outline⟩ :: items)
    | some '?' => branches n inGroup c from_ (← repeated items 0 (some 1))
    | some '*' => branches n inGroup c from_ (← repeated items 0 none)
    | some '+' => branches n inGroup c from_ (← repeated items 1 none)
    | some '\x7b' => branches n inGroup c from_ (← counted items)
    | some _ =>
      let p ← simple
      branches n inGroup c from_ (⟨some p, ⟨start, ← place⟩, .leaf⟩ :: items)

end Reading

inductive Refusal where
  | flaw (f : Flaw)
  | tooLarge
  | words
deriving DecidableEq, Repr

def Refusal.message (pattern : String) : Refusal → String
  | flaw f => f.text pattern
  | tooLarge => "Compiled regex exceeds size limit of 10485760 bytes."
  | words => "error building NFA"

def deepest : Nat := 250

/-- A pattern that is too deep is refused before a flaw of meaning is told, and one that looks at words of
all scripts only when nothing else is wrong. -/
def ofText (text : String) : Except Refusal Pattern := do
  let cs := text.toList
  match (Reading.branches (cs.length + 1) false ⟨0, [], []⟩ 0 []).run
      ⟨cs.length, cs, .initial, [], none⟩ with
  | .error f => .error (.flaw f)
  | .ok ((p, outline), s) =>
    match outline.tooDeep? deepest, s.late with
    | some span, _ => .error (.flaw ⟨.tooDeep, span, none⟩)
    | none, some f => .error (.flaw f)
    | none, none =>
      if p.extent > room then .error .tooLarge
      else if p.looksAtWords then .error .words
      else .ok p

end Lox.Pattern
