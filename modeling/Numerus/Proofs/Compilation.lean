import Numerus.Proofs.Descent
import Numerus.Proofs.FirstWrongToken

/-!
Compiling a rule text ends with a condition or refuses the text.

A rule text of any length and content compiles or is refused as a rule text, and nothing else can
go wrong: no token is looked up outside the tokens, no numeral is too long to be read, and all
ranges, moduli, relations and spans are built from parts that are accepted.

* `Rule.compile_failsWith` — the one way in which compiling fails.
* `Rule.compile_fails_only_as_rule_text` — and no check of the reading by descent fails.
-/

namespace Numerus

/-- Whether the failure tells by a diagnostic what is wrong with a rule text, or with the rules of a
locale that it belongs to. -/
def Failure.IsOfRules (e : Failure) : Prop :=
  ∃ d ruleText fragment position, e = .grammar (.diagnosed d) ruleText fragment position

namespace Rule

/-- A step that refuses a token tells what is wrong with the rule text. -/
theorem State.Refuses.isOfRules {source : Text} {s : State} {t : Token} {next : Option Token}
    {e : Failure} (h : s.Refuses source t next e) : e.IsOfRules := by
  cases h with
  | token hblames => cases hblames; exact ⟨_, _, _, _, rfl⟩
  | dots _ _ hblames => cases hblames; exact ⟨_, _, _, _, rfl⟩
  | noHigh _ _ hblames => cases hblames; exact ⟨_, _, _, _, rfl⟩
  | inverted _ _ _ hblames => cases hblames; exact ⟨_, _, _, _, rfl⟩

/-- Compiling fails only by refusing the rule text. -/
theorem compile_failsWith (t : Text) : FailsWith Failure.IsOfRules (compile t) := by
  refine compile_failsWith_of (fun e he => ?long) (fun s u next hu e he => ?step)
  case long => exact ⟨_, _, _, _, (Except.error.inj he).symm⟩
  case step => exact (State.step_failsWith hu e he).isOfRules

/-- **Compiling never fails otherwise.** Any text whatever compiles to a condition or is refused as
a rule text, by a diagnostic. Reading it by descent has the same outcome, though there every token,
and every token before the one at hand, is looked up by its index, every numeral is read within the
limit on digits, and every range, relation and span is built by a function that checks its parts:
none of these look-ups and checks fails. -/
theorem compile_fails_only_as_rule_text (t : Text) :
    Descent.compile t = compile t ∧
      ((∃ c, compile t = .ok c) ∨
        ∃ d ruleText fragment position,
          compile t = .error (.grammar (.diagnosed d) ruleText fragment position)) := by
  refine ⟨Descent.compile_eq t, ?_⟩
  cases h : compile t with
  | ok c => exact .inl ⟨c, rfl⟩
  | error e =>
    obtain ⟨d, ruleText, fragment, position, rfl⟩ := compile_failsWith t e h
    exact .inr ⟨d, ruleText, fragment, position, rfl⟩

end Rule

end Numerus
