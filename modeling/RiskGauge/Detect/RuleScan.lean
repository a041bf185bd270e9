import RiskGauge.Database.Basic
import RiskGauge.Detect.Finding
import RiskGauge.Pattern.Reader
import RiskGauge.Text.Lines

/-!
# Vulnerabilities by their patterns

What speaks for a vulnerability is summed up: rules that match, rules that match together, and rules that
match on lines close to each other; what speaks against it is taken away. A pattern that is malformed is
as if it were not there.
-/

namespace RiskGauge

/-- The pattern of a rule with case disregarded; nothing for a malformed one. -/
def compilePattern (rx : String) : Except Pattern.Fault (Option Pattern) :=
  match Pattern.read rx.toList with
  | .ok p => .ok (some p)
  | .error .malformed => .ok none
  | .error fault => .error fault

/-- The pattern of a rule matches somewhere in a text. -/
def patternMatches (text : List Char) (rx : String) : Except Pattern.Fault Bool := do
  return (← compilePattern rx).any (·.occursIn text)

/-- All patterns match somewhere in a text; those behind the first that does not are not looked at. -/
def allMatch (text : List Char) : List String → Except Pattern.Fault Bool
  | [] => .ok true
  | rx :: rest => do
    if ← patternMatches text rx then allMatch text rest else return false

/-- The items of a list that pass a test which may fail. -/
def selectM {ε α : Type} (test : α → Except ε Bool) : List α → Except ε (List α)
  | [] => .ok []
  | x :: rest => do
    let passes ← test x
    let others ← selectM test rest
    return if passes then x :: others else others

namespace RuleScan

variable {α : Type} [Scalar α]

/-- The part of a list that is at most `window` places away from place `i`, as far as the list goes. -/
def around {β : Type} (window : Int) (i : Nat) (xs : List β) : List β :=
  let start := max 0 (i - window)
  let stop := min (xs.length : Int) (i + window + 1)
  (xs.take stop.toNat).drop start.toNat

/-- The number of lines that match one pattern with a line that matches another at most `window` lines away. -/
def closeLines (first second : Pattern) (window : Int) (lines : List (List Char)) : Nat :=
  let partners := lines.map second.occursIn
  lines.zipIdx.countP fun (line, i) => first.occursIn line && (around window i partners).any id

/-- How often a rule on close lines holds. -/
def proximityCount (defaultLines : Int) (lines : List (List Char)) (rule : ProximityRule α) :
    Except Pattern.Fault Nat := do
  let first ← compilePattern rule.first
  let second ← compilePattern rule.second
  match first, second with
  | some p, some q => return closeLines p q (rule.lines.getD defaultLines) lines
  | _, _ => return 0

/-- A number with another added to it `n` times. -/
def addTimes (bonus : α) : Nat → α → α
  | 0, x => x
  | n + 1, x => addTimes bonus n (x + bonus)

/-- What speaks for a signature in a text, and the labels of the rules that match. -/
def rawScore (defaultLines : Int) (sig : RuleSignature α) (text : List Char) (lines : List (List Char)) :
    Except Pattern.Fault (α × List String) := do
  let hits ← selectM (fun r => patternMatches text r.pattern) sig.rules
  let together ← selectM
    (fun r => if r.patterns.isEmpty then .ok false else allMatch text r.patterns) sig.cooccurrences
  let close ← sig.proximities.mapM fun r => do return (r.bonus, ← proximityCount defaultLines lines r)
  let against ← selectM (fun r => patternMatches text r.pattern) sig.negatives
  let raw := hits.foldl (fun sum r => sum + r.weight * r.rarity) 0.0
  let raw := together.foldl (fun sum r => sum + r.bonus) raw
  let raw := close.foldl (fun sum (bonus, n) => addTimes bonus n sum) raw
  let raw := against.foldl (fun sum r => sum - r.penalty) raw
  return (Scalar.greater 0.0 raw, hits.map (·.label))

/-- The severity of a signature for what speaks for it. -/
def severity (curves : Curves α) (sig : RuleSignature α) (raw : α) : α :=
  let base := Scalar.clamp sig.baseSeverity
  let boost := Scalar.smaller 0.10 (Scalar.greater 0.0 sig.supportDocs / 1000.0)
  Scalar.clamp (base * (1.0 + boost) * (1.0 - curves.exp (-3.0 * raw)))

/-- The finding for a signature. -/
def finding (curves : Curves α) (defaultLines : Int) (text : List Char) (lines : List (List Char))
    (sig : RuleSignature α) : Except Pattern.Fault (Finding α) := do
  let (raw, matched) ← rawScore defaultLines sig text lines
  return { id := sig.id, title := sig.title, severity := severity curves sig raw, raw, similarity := 0.0, matched }

/-- The verdict of a rule database on a source. -/
def scan (curves : Curves α) (db : RuleDatabase α) (defaultLines topK : Int) (source : List Char) :
    Except Pattern.Fault (Verdict α) := do
  if db.signatures.isEmpty || source.isEmpty then return { severity := 0.0 }
  let text := Text.lowercase source
  let findings ← db.signatures.mapM (finding curves defaultLines text (Text.feedLines text))
  return .ofFindings topK (fun f => decide (0.15 < f.severity)) findings

end RuleScan

end RiskGauge
