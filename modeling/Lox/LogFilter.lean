import Lox.Journal
import Lox.Pattern.OfText
namespace Lox

/-- Shows the records up to a rank of all targets that begin with a name, or of all targets. -/
structure LogRule where
  name : Option String
  rank : Nat
deriving DecidableEq, Repr

/-- Of the rules for a target the one with the longest name counts. With a pattern, only messages that it is
found in are shown. -/
structure LogFilter where
  rules : List LogRule
  pattern : Option Pattern
deriving DecidableEq, Repr

inductive LogComplaint where
  | rule (text : String)
  | slashes (text : String)
  | pattern (text : String) (refusal : Pattern.Refusal)
deriving DecidableEq, Repr

structure LogSettings where
  filter : LogFilter
  complaints : List LogComplaint
deriving DecidableEq, Repr

def LogComplaint.message : LogComplaint → String
  | rule text => s!"warning: invalid logging spec '{text}', ignoring it"
  | slashes text => s!"warning: invalid logging spec '{text}', ignoring it (too many '/'s)"
  | pattern text refusal => "warning: invalid regex filter - " ++ refusal.message text

namespace LogRule

def rank? (word : String) : Option Nat :=
  [("off", 0), ("error", 1), ("warn", 2), ("info", 3), ("debug", 4), ("trace", 5)].lookup word.toLower

/-- A rank alone is a rule for every target, a name alone one that shows everything. -/
def ofText (part : String) : Except LogComplaint LogRule :=
  match part.splitOn "=" with
  | [word] => .ok (match rank? word with
    | some rank => ⟨none, rank⟩
    | none => ⟨some word, 5⟩)
  | [name, text] =>
    let word := Text.trim text
    if word.isEmpty then .ok ⟨some name, 5⟩
    else match rank? word with
      | some rank => .ok ⟨some name, rank⟩
      | none => .error (.rule word)
  | _ => .error (.rule part)

def fits (r : LogRule) (target : String) : Bool := r.name.all (target.startsWith ·)

def length (r : LogRule) : Nat := (r.name.map String.length).getD 0

end LogRule

namespace LogFilter

def put (rules : List LogRule) (rule : LogRule) : List LogRule :=
  if rules.any (·.name = rule.name) then rules.map fun r => if r.name = rule.name then rule else r
  else rules ++ [rule]

def ofRules (rules : List LogRule) (pattern : Option Pattern) : LogFilter :=
  ⟨if rules.isEmpty then [⟨none, 1⟩] else rules.foldl put [], pattern⟩

def errorsOnly : LogFilter := ofRules [] none

def limit (f : LogFilter) (target : String) : Nat :=
  ((f.rules.filter (·.fits target)).foldl
    (fun (best : LogRule) rule => if best.length ≤ rule.length then rule else best) ⟨none, 0⟩).rank

def shows (f : LogFilter) (r : Record) : Bool :=
  r.severity.rank ≤ f.limit r.target && f.pattern.all (·.foundIn r.message)

end LogFilter

namespace LogSettings

def rulesOf (text : String) : List LogRule × List LogComplaint :=
  (((text.splitOn ",").map Text.trim).filter (!·.isEmpty)).foldr (fun part (rules, complaints) =>
    match LogRule.ofText part with
    | .ok rule => (rule :: rules, complaints)
    | .error complaint => (rules, complaint :: complaints)) ([], [])

def ofText (text : String) : LogSettings :=
  match text.splitOn "/" with
  | [rules] =>
    let (rules, complaints) := rulesOf rules
    ⟨.ofRules rules none, complaints⟩
  | [rules, pattern] =>
    let (rules, complaints) := rulesOf rules
    match Pattern.ofText pattern with
    | .ok p => ⟨.ofRules rules (some p), complaints⟩
    | .error refusal => ⟨.ofRules rules none, complaints ++ [.pattern pattern refusal]⟩
  | _ => ⟨.errorsOnly, [.slashes text]⟩

def none : LogSettings := ⟨.errorsOnly, []⟩

end LogSettings

/-- The name of the severity is padded to five characters; further lines of a message are indented. -/
def Record.line (r : Record) : String :=
  let severity := r.severity.name
  "[" ++ severity.pushn ' ' (5 - severity.length) ++ " " ++ r.target ++ "] " ++
    r.message.replace "\n" "\n    "

def Entry.lines (f : LogFilter) : Entry → List String
  | record r => if f.shows r then [r.line] else []
  | report d => [d.text]
  | line text => [text]

end Lox
