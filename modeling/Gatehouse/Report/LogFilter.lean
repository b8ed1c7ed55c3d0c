import Gatehouse.Report.Event
import Gatehouse.Text.Blank
import Gatehouse.Text.Decimal

/-!
# Which events are logged

A log filter is a list of directives such as `geofence_proxy::http=info`:
events whose target begins so are logged from that level on. The directive
with the longest target decides, so an exception may stand beside its rule
in any order, and of two directives for the same target the later one
holds. An event that no directive is about is not logged.

A directive may also name a span or fields between brackets. Spans are
opened by requests only, and no event of the gate lies in one, so such a
directive admits nothing; fields narrow it to events that have them.

A filter comes from the environment, where a single fault makes all of it
void, or else from the configuration, where faulty directives are skipped.
-/

namespace Gatehouse

open Text

/-- **A rule about some events.** -/
structure Directive where
  /-- How the targets begin that it is about; without one it is about
  all. -/
  target : Option String
  /-- The fields that an event must have. -/
  fields : List String
  /-- Whether it is only about events within a span. -/
  withinSpan : Bool
  /-- The least serious level to log; without one nothing is logged. -/
  level : Option Level
deriving DecidableEq, Inhabited

namespace Level

/-- Levels by the amount they log, from one on. -/
def verbosity : Level → Nat
  | .error => 1
  | .warn => 2
  | .info => 3
  | .debug => 4
  | .trace => 5

/-- The level of a name, by any case, or of a number; `off` and zero are
the level that logs nothing. -/
def ofName? (s : String) : Option (Option Level) :=
  let byName := match lower s with
    | "off" => some none
    | "error" => some (some error)
    | "warn" => some (some warn)
    | "info" => some (some info)
    | "debug" => some (some debug)
    | "trace" => some (some trace)
    | _ => none
  match Decimal.unsigned? Decimal.max64 s.toList with
  | some 0 => some none
  | some 1 => some (some error)
  | some 2 => some (some warn)
  | some 3 => some (some info)
  | some 4 => some (some debug)
  | some 5 => some (some trace)
  | _ => byName

end Level

namespace Directive

/-! ## Reading -/

/-- The level behind an equals sign; nothing stands for all levels. -/
def levelPart? (s : List Char) : Option (Option Level) :=
  if s.isEmpty then some (some .trace) else Level.ofName? (String.ofList s)

/-- What stands behind the closing bracket: a level, or nothing for all
levels. -/
def afterBracket? : List Char → Option (Option Level)
  | [] => some (some .trace)
  | '=' :: rest => levelPart? rest
  | _ => none

/-- The fields between braces, each with whether a value is asked for. -/
def fieldsPart? (s : List Char) : Option (List (String × Bool)) :=
  (splitAt (· == ',') s).mapM fun field =>
    if field.isEmpty then none
    else some (String.ofList (field.takeWhile (· != '=')), field.contains '=')

/-- What stands between brackets and behind them: the name of a span,
fields between braces, or both. -/
def bracketPart? (target : Option String) (s : List Char) : Option Directive :=
  let span := s.takeWhile fun c => c != ']' && c != '\x7b'
  match s.dropWhile fun c => c != ']' && c != '\x7b' with
  | ']' :: rest => do return ⟨target, [], true, ← afterBracket? rest⟩
  | _ :: rest => do
    let (inside, rest) ← cutAt? (· == '\x7d') rest
    let fields ← fieldsPart? inside
    match rest with
    | ']' :: rest =>
      return ⟨target, fields.map (·.1), !span.isEmpty || fields.any (·.2),
        ← afterBracket? rest⟩
    | _ => none
  | [] => none

/-- Whether a character may begin a target or a level. -/
def isLead (c : Char) : Bool :=
  c.isAlphanum || c == '-' || c == ':' || c == '_' || 0x80 ≤ c.toNat

/-- **Reads a directive**: a level, a target with or without a level, or
either with brackets. -/
def parse? (s : List Char) : Option Directive :=
  match s with
  | [] => none
  | '[' :: rest => bracketPart? none rest
  | c :: _ =>
    if !isLead c then none
    else
      let word := s.takeWhile fun c => c != '=' && c != '['
      let name := String.ofList word
      match s.dropWhile fun c => c != '=' && c != '[' with
      | [] =>
        match Level.ofName? name with
        | some level => some ⟨none, [], false, level⟩
        | none => some ⟨some name, [], false, some .trace⟩
      | '=' :: rest => do return ⟨some name, [], false, ← levelPart? rest⟩
      | _ :: rest => bracketPart? (some name) rest

/-! ## Meaning -/

/-- Whether the directive is about an event. -/
def concerns (d : Directive) (e : Event) : Bool :=
  (match d.target with
    | some t => t.toList.isPrefixOf e.target.toList
    | none => true)
  && !d.withinSpan
  && d.fields.all fun f => f == "message" || e.fields.any fun x => x.1 == f

/-- How special a directive is: first by its target, then by its fields. -/
def rank (d : Directive) : Nat × Nat :=
  (d.target.elim 0 fun t => t.utf8ByteSize + 1, d.fields.length)

/-- Whether the first directive gives way to the second, which stands
behind it. -/
def yields (d next : Directive) : Bool :=
  d.rank.1 < next.rank.1 || (d.rank.1 == next.rank.1 && d.rank.2 ≤ next.rank.2)

end Directive

/-- **A log filter.** -/
structure LogFilter where
  directives : List Directive
deriving DecidableEq, Inhabited

namespace LogFilter

/-- The directive that decides about an event. -/
def decisive? (f : LogFilter) (e : Event) : Option Directive :=
  f.directives.foldl (fun best d =>
    if !d.concerns e then best
    else match best with
      | none => some d
      | some b => if b.yields d then some d else best) none

/-- **Whether an event is logged.** -/
def admits (f : LogFilter) (e : Event) : Bool :=
  match f.decisive? e with
  | some d => d.level.any fun l => decide (e.level.verbosity ≤ l.verbosity)
  | none => false

/-- The texts of the directives. -/
def pieces (s : String) : List (List Char) :=
  (splitAt (· == ',') s.toList).filter (!·.isEmpty)

/-- The filter that a text writes, if all of its directives can be read. -/
def parse? (s : String) : Option LogFilter :=
  ((pieces s).mapM Directive.parse?).map LogFilter.mk

/-- The filter of those directives in a text that can be read. If there are
none, errors are logged. -/
def ofReadable (s : String) : LogFilter :=
  match (pieces s).filterMap Directive.parse? with
  | [] => ⟨[⟨none, [], false, some .error⟩]⟩
  | ds => ⟨ds⟩

/-- The filter of a configured level. -/
def ofLevel (level : String) : LogFilter :=
  ofReadable ("geofence_proxy=" ++ level ++ ",tower_http=" ++ level)

/-- **The filter in force**: the one from the environment if there is one
that can be read, or else the configured one. -/
def settle (environment : Option String) (level : String) : LogFilter :=
  ((environment.bind parse?)).getD (ofLevel level)

end LogFilter

end Gatehouse
