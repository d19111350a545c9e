import CsiOperator.Log
/-!
Log filters: which events a process writes, set by directives such as
`warn,dell_csi_operator=debug`.

A directive names a verbosity, a target prefix, or a target prefix with a verbosity; a bare
target lets everything through. An event is judged by the directive with the longest target
that its own target starts with, a directive without a target being the shortest, and nothing
is written when no directive applies. With no directives at all, informational events and the
more severe ones are written. Directives that cannot be read are skipped.

A verbosity counts the levels let through: 0 lets none through, 1 errors only, up to 5 for
every level.
-/

namespace CsiOperator

/-- The verbosity a level needs to be written. -/
def LogLevel.rank : LogLevel → Nat
  | .error => 1
  | .warn => 2
  | .info => 3
  | .debug => 4

/-- Reads a verbosity: a digit from 0 to 5, or a level name or `off` in any case; empty text
means errors only. -/
def verbosity? (s : String) : Option Nat :=
  if !s.isEmpty && s.all Char.isDigit then
    let n := s.toNat!
    if n ≤ 5 then some n else none
  else
    match s.toLower with
    | "" => some 1
    | "off" => some 0
    | "error" => some 1
    | "warn" => some 2
    | "info" => some 3
    | "debug" => some 4
    | "trace" => some 5
    | _ => none

/-- One directive of a log filter: the targets it is about, all when none is named, and the
verbosity it allows them. -/
structure LogDirective where
  target : Option String
  verbosity : Nat
deriving DecidableEq, Repr, Inhabited

namespace LogDirective

/-- Reads one directive. -/
def read? (s : String) : Option LogDirective :=
  match s.splitOn "=" with
  | [one] =>
    match verbosity? one with
    | some v => some ⟨none, v⟩
    | none => some ⟨some one, 5⟩
  | [target, level] =>
    (verbosity? level).map fun v => ⟨if target.isEmpty then none else some target, v⟩
  | _ => none

/-- Whether a directive is about a target. -/
def covers (d : LogDirective) (target : String) : Bool := d.target.all fun t => target.startsWith t

/-- How specific a directive is: the length of its target. -/
def specificity (d : LogDirective) : Nat := (d.target.map String.length).getD 0

end LogDirective

/-- A log filter: its directives, in the order given. -/
structure LogFilter where
  directives : List LogDirective
deriving DecidableEq, Repr, Inhabited

namespace LogFilter

/-- The filter of a directive list, comma separated; unset and empty lists have no
directives. -/
def read (spec : Option String) : LogFilter :=
  ⟨(((spec.getD "").splitOn ",").filter (!·.isEmpty)).filterMap LogDirective.read?⟩

/-- The directive that judges events of a target: of those about it, the most specific, the
last given among equals. -/
def judge? (f : LogFilter) (target : String) : Option LogDirective :=
  (f.directives.filter (·.covers target)).foldl (fun best d =>
    match best with
    | some b => if d.specificity ≥ b.specificity then some d else some b
    | none => some d) none

/-- Whether a filter writes an event of a level from a target. -/
def admits (f : LogFilter) (target : String) (level : LogLevel) : Bool :=
  if f.directives.isEmpty then level.rank ≤ 3
  else match f.judge? target with
    | some d => level.rank ≤ d.verbosity
    | none => false

end LogFilter

end CsiOperator
