import Mathlib
import Numerus.Document.Reader
import Numerus.Proofs.Compilation
import Numerus.Proofs.Decoding
import Numerus.Proofs.DigitLimits
import Numerus.Proofs.LineBreaks
import Numerus.Proofs.ProperData
import Numerus.Selection

/-!
What the wordings of complaints take over.

The wording of a complaint takes some texts over as they are, and shows all other data quoted. When
an operation fails, those texts come from what it was given: parts of the rule text, keys, tags and
texts of rule data, the tag or the names of a locale, keys of a document. All else that they are
made of is on one line.

* `Complaint.lineBreaks_message` — the line breaks of a message.
* `Failure.Quotes` — the line breaks of the texts taken over are in given texts.
* `Rule.compile_quotes`, `Catalog.build_quotes`, `Operands.of_quotes`, `Locale.ofDatum_quotes`,
  `Selector.rulesFor_quotes`, `Document.decode_quotes` — what each operation takes over.
-/

namespace Numerus

/-! ### Wordings -/

theorem Diagnostic.message_of_ofRule {code : Code} {message source : Text} {position : ℤ}
    {length : ℕ} {hint : Option Text} {d : Diagnostic}
    (h : ofRule code message source position length hint = .ok d) : d.message = message := by
  obtain ⟨span, -, heq⟩ := bind_eq_ok_iff.1 h
  obtain rfl := pure_eq_ok_iff.1 heq
  rfl

namespace Complaint

/-- The texts that the wording of the complaint takes over as they are. -/
def quotes : Complaint → List Text
  | unexpectedToken _ fragment _ expected => [fragment, expected]
  | unexpectedEnd _ _ expected => [expected]
  | unknownOperand _ fragment _ => [fragment]
  | unknownOperator _ fragment _ => [fragment]
  | invalidRange _ fragment _ => [fragment]
  | invalidModulus _ fragment _ => [fragment]
  | parenthesesUnsupported ruleText position => [(Text.at? ruleText position).toList]
  | ruleTooLong length limit => [length, limit]
  | unknownCategory localeCode category => [category, localeCode]
  | duplicateCategory localeCode category => [category, localeCode]
  | conditionalOther localeCode ruleText => [localeCode, ruleText]
  | unknownPluralRules localeCode language family =>
    if language ≠ [] ∧ language ≠ localeCode then [family, localeCode, language]
    else [family, localeCode]
  | invalidNumber value reason => [value, reason]
  | invalidPrecision value => [value]
  | invalidLocale localeCode reason => [localeCode, reason]
  | missingSection name => [name]
  | invalidEntry localeCode key => [key, localeCode]
  | duplicateLocale localeCode firstKey secondKey => [firstKey, secondKey, localeCode]

/-- The line breaks of a message are those of the texts that its wording takes over. -/
theorem lineBreaks_message {c : Complaint} {d : Diagnostic} (h : c.diagnostic = .ok d) :
    d.message.lineBreaks = c.quotes.flatMap Text.lineBreaks := by
  cases c
  -- Each case leaves the wording as it is put together from texts and literals.
  case' unexpectedToken | unexpectedEnd | unknownOperand | unknownOperator | invalidRange |
      invalidModulus =>
    rw [Diagnostic.message_of_ofRule h]
  case parenthesesUnsupported ruleText position =>
    unfold diagnostic at h
    cases hc : Text.at? ruleText position with
    | none => simp [hc] at h
    | some c =>
      simp only [hc] at h
      have hmark : Text.lineBreaks ['\''] = [] := by decide
      rw [Diagnostic.message_of_ofRule h, ← List.singleton_append, Text.lineBreaks_append,
        Text.lineBreaks_append, Text.lineBreaks_eq_nil (by decide), hmark]
      simp [quotes, hc]
  case' invalidNumber | invalidPrecision | ruleTooLong | unknownCategory | duplicateCategory |
      conditionalOther | unknownPluralRules | invalidLocale | missingSection | invalidEntry |
      duplicateLocale =>
    obtain rfl := Except.ok.inj h
  case' unknownPluralRules =>
    simp only [unknownRulesMessage, quotes]
    split
  all_goals
    simp (disch := decide) only [quotes, Text.lineBreaks_append, Text.lineBreaks_eq_nil,
      List.flatMap_cons, List.flatMap_nil, List.append_assoc, List.nil_append, List.append_nil]

/-- A complaint without a diagnostic has no other one in its place. -/
theorem diagnostic_failsWith (c : Complaint) : FailsWith (·.diagnostic? = none) c.diagnostic := by
  have ofRule (code : Code) (message source : Text) (position : ℤ) (length : ℕ)
      (hint : Option Text) : FailsWith (·.diagnostic? = none)
        (Diagnostic.ofRule code message source position length hint) := by
    refine FailsWith.bind (fun e he => ?_) fun _ _ => .pure _
    unfold Diagnostic.spanOf at he
    cases hspan : Span.ofBounds position (position + length) with
    | error fault =>
      rw [hspan] at he
      obtain rfl := Except.error.inj he
      rfl
    | ok span => simp [hspan, Except.mapError] at he
  cases c
  case unexpectedToken | unexpectedEnd | unknownOperand | unknownOperator | invalidRange |
      invalidModulus =>
    exact ofRule _ _ _ _ _ _
  case parenthesesUnsupported ruleText position =>
    intro e he
    unfold diagnostic at he
    cases hc : Text.at? ruleText position with
    | none =>
      simp only [hc] at he
      exact Except.error.inj he ▸ rfl
    | some c =>
      simp only [hc] at he
      exact ofRule _ _ _ _ _ _ e he
  all_goals exact .ok _

end Complaint

/-! ### Texts taken over from given ones -/

/-- Whether all line breaks of a text are in given texts. -/
def BreaksAs (given : Text → Prop) (q : Text) : Prop := ∀ b ∈ q.lineBreaks, ∃ t, given t ∧ b ∈ t

/-- Whether a failure that tells a diagnostic tells a complaint whose wording takes over no line
breaks but those of given texts. -/
def Failure.Quotes (given : Text → Prop) (e : Failure) : Prop :=
  ∀ d, e.diagnostic? = some d →
    ∃ c : Complaint, c.diagnostic = .ok d ∧ ∀ q ∈ c.quotes, BreaksAs given q

section Given

variable {given given' : Text → Prop} {q t : Text} {e : Failure}

theorem breaksAs_of_mem (h : ∀ c, isLineBreak c = true → c ∈ q → ∃ t, given t ∧ c ∈ t) :
    BreaksAs given q := fun b hb =>
  have ⟨hmem, hbreak⟩ := Text.mem_lineBreaks_iff.1 hb
  h b hbreak hmem

theorem breaksAs_of_given (h : given t) (hsub : q ⊆ t) : BreaksAs given q :=
  breaksAs_of_mem fun _ _ hmem => ⟨t, h, hsub hmem⟩

theorem breaksAs_of_lineBreaks (h : q.lineBreaks = []) : BreaksAs given q := fun b hb => by
  simp [h] at hb

theorem breaksAs_of_isPrintable (h : q.IsPrintable) : BreaksAs given q :=
  breaksAs_of_lineBreaks h.lineBreaks_eq_nil

theorem BreaksAs.mono (h : BreaksAs given q) (hgiven : ∀ t, given t → given' t) :
    BreaksAs given' q := fun b hb =>
  let ⟨t, ht, hmem⟩ := h b hb
  ⟨t, hgiven t ht, hmem⟩

theorem Failure.quotes_of_none (h : e.diagnostic? = none) : e.Quotes given := fun d hd => by
  simp [h] at hd

theorem Failure.Quotes.mono (h : e.Quotes given) (hgiven : ∀ t, given t → given' t) :
    e.Quotes given' := fun d hd =>
  let ⟨c, hc, hquotes⟩ := h d hd
  ⟨c, hc, fun q hq => (hquotes q hq).mono hgiven⟩

/-- An operation that ends with a complaint tells that complaint. -/
theorem Complaint.raise_quotes {α : Type} {c : Complaint} {kind : Notice → Failure}
    (hkind : ∀ d, (kind (.diagnosed d)).diagnostic? = some d)
    (h : ∀ q ∈ c.quotes, BreaksAs given q) :
    FailsWith (Failure.Quotes given) (c.raise kind : Except Failure α) := by
  have hnone : FailsWith (Failure.Quotes given) c.diagnostic :=
    c.diagnostic_failsWith.mono fun e => Failure.quotes_of_none
  refine hnone.bind fun d hd => .error fun d' hd' => ?_
  obtain rfl := Option.some.inj ((hkind d).symm.trans hd')
  exact ⟨c, hd, h⟩

end Given

/-! ### Rule texts -/

namespace Text

theorem slice_sublist (t : Text) (start stop : ℕ) : (t.slice start stop).Sublist t :=
  (List.take_sublist _ _).trans (List.drop_sublist _ _)

theorem mem_of_at? {t : Text} {i : ℤ} {c : Char} (h : t.at? i = some c) : c ∈ t := by
  unfold at? at h
  split_ifs at h <;> exact List.mem_of_getElem? h

end Text

namespace Rule

variable {source : Text} {t : Token} {next : Option Token} {s : State}

theorem lineBreaks_of_wanted : ∀ expected ∈ wanted, expected.lineBreaks = [] := by decide

/-- A complaint on a token takes over nothing but the token, and what is wanted in its place. -/
theorem Objection.quotes {c : Complaint} (h : Objection source t c) (ht : t.StandsIn source) :
    ∀ q ∈ c.quotes, BreaksAs (· = source) q := by
  have htext : BreaksAs (· = source) t.text :=
    breaksAs_of_given rfl (ht.slice_eq ▸ (Text.slice_sublist _ _ _).subset)
  cases h with
  | @mismatch expected hwanted =>
    have hexpected : BreaksAs (· = source) expected :=
      breaksAs_of_lineBreaks (lineBreaks_of_wanted _ hwanted)
    unfold Rule.mismatch
    split
    · simpa [Complaint.quotes] using hexpected
    · split
      · have hcharacter : BreaksAs (· = source) (source.at? t.position).toList :=
          breaksAs_of_given rfl fun c hc => Text.mem_of_at? (Option.mem_toList.1 hc)
        simpa [Complaint.quotes] using hcharacter
      · simpa [Complaint.quotes] using ⟨htext, hexpected⟩
  | operand => simpa [Complaint.quotes] using htext
  | operator => simpa [Complaint.quotes] using htext
  | modulus => simpa [Complaint.quotes] using htext

theorem RefusesToken.quotes {e : Failure} (h : RefusesToken source t e) (ht : t.StandsIn source) :
    e.Quotes (· = source) := by
  obtain ⟨hobjection, hc⟩ := h
  intro d hd
  obtain rfl := Option.some.inj hd
  exact ⟨_, hc, hobjection.quotes ht⟩

theorem RefusesRange.quotes {start stop : ℕ} {e : Failure} (h : RefusesRange source start stop e) :
    e.Quotes (· = source) := by
  obtain ⟨hc⟩ := h
  intro d hd
  obtain rfl := Option.some.inj hd
  have hfragment : BreaksAs (· = source) (source.slice start stop) :=
    breaksAs_of_given rfl (source.slice_sublist start stop).subset
  exact ⟨_, hc, by simpa [Complaint.quotes] using hfragment⟩

/-- A step that has no answer takes over nothing but parts of the rule text. -/
theorem State.step_quotes (ht : t.IsOf source) :
    FailsWith (Failure.Quotes (· = source)) (s.step source t next) :=
  State.step_failsWith_of ht (fun _ h => h.quotes ht.standsIn) (fun _ _ _ _ _ h => h.quotes)
    (fun _ _ _ _ _ _ _ _ h => h.quotes) (fun _ _ _ _ _ _ _ _ _ _ h => h.quotes)

theorem compile_quotes (t : Text) : FailsWith (Failure.Quotes (· = t)) (compile t) := by
  refine compile_failsWith_of (Complaint.raise_quotes (fun _ => rfl) ?_)
    fun _ _ _ hu => State.step_quotes hu
  simp [Complaint.quotes, breaksAs_of_isPrintable, Numeral.isPrintable_ofNat]

end Rule

/-! ### Rule data -/

/-- Whether the rule data have the text as a key, as the tag of a category or as its rule text. -/
def RuleData.Gives (data : RuleData) (t : Text) : Prop :=
  ∃ entry ∈ data, t = entry.1 ∨ ∃ rule ∈ entry.2.toPairs, t = rule.1 ∨ t = rule.2

section Build

variable {given : Text → Prop} {name : Text}

theorem RuleSet.refuseTag_quotes {α : Type} {c : Complaint} (tag : Text)
    (h : ∀ q ∈ c.quotes, BreaksAs given q) :
    FailsWith (Failure.Quotes given) (refuseTag c tag : Except Failure α) := by
  unfold refuseTag
  exact Complaint.raise_quotes (fun _ => rfl) h

theorem RuleSet.declare_quotes (hname : BreaksAs given name) {entry : Text × Text}
    (htag : given entry.1) (htext : given entry.2) (rules : List (Category × Condition)) :
    FailsWith (Failure.Quotes given) (declare name rules entry) := by
  obtain ⟨tag, text⟩ := entry
  have hquoted := breaksAs_of_given htag (List.Subset.refl _)
  have hrule := breaksAs_of_given htext (List.Subset.refl _)
  simp only [declare]
  split
  · refine refuseTag_quotes _ ?_
    simpa [Complaint.quotes] using ⟨hquoted, hname⟩
  · next category _ =>
    split
    · refine refuseTag_quotes _ ?_
      simpa [Complaint.quotes] using ⟨hquoted, hname⟩
    · refine FailsWith.bind (.ite (.ok _) ?_) fun condition _ => ?_
      · exact (Rule.compile_quotes _).mono fun e he => he.mono fun t ht => ht ▸ htext
      · split
        · refine Complaint.raise_quotes (fun _ => rfl) ?_
          simpa [Complaint.quotes] using ⟨hname, hrule⟩
        · exact .pure _

theorem RuleSet.build_quotes (hname : BreaksAs given name) {entries : List (Text × Text)}
    (hentries : ∀ entry ∈ entries, given entry.1 ∧ given entry.2) :
    FailsWith (Failure.Quotes given) (RuleSet.build name entries) := by
  refine FailsWith.bind (.foldlM (fun rules entry hentry => ?_) _) fun _ _ => .pure _
  obtain ⟨htag, htext⟩ := hentries entry hentry
  exact declare_quotes hname htag htext rules

theorem breaksAs_underscored {key : Text} (h : given key) :
    BreaksAs given (Locale.underscored key) :=
  breaksAs_of_mem fun _ hbreak hmem => ⟨key, h, Locale.mem_of_mem_underscored hbreak hmem⟩

theorem Catalog.declare_quotes {entry : Text × Declarations} (hkey : given entry.1)
    (hentries : ∀ rule ∈ entry.2.toPairs, given rule.1 ∧ given rule.2)
    {ruleSets : List (Text × RuleSet)} (hread : ∀ read ∈ ruleSets, given read.1) :
    FailsWith (Failure.Quotes given) (declare ruleSets entry) := by
  have hname := breaksAs_underscored hkey
  obtain ⟨key, declarations⟩ := entry
  simp only [declare]
  split
  · next first hfirst =>
    have hfirst := breaksAs_of_given (hread first (List.mem_of_find?_eq_some hfirst))
      (List.Subset.refl _)
    have hsecond := breaksAs_of_given hkey (List.Subset.refl _)
    refine Complaint.raise_quotes (fun _ => rfl) ?_
    simpa [Complaint.quotes] using ⟨hfirst, hsecond, hname⟩
  · exact (RuleSet.build_quotes hname hentries).bind fun _ _ => .pure _

/-- Building a catalog takes over nothing but keys, tags and texts of the rule data. -/
theorem Catalog.build_quotes (family : Family) (data : RuleData) :
    FailsWith (Failure.Quotes data.Gives) (Catalog.build family data) := by
  have hkey {entry : Text × Declarations} (h : entry ∈ data) : data.Gives entry.1 :=
    ⟨entry, h, .inl rfl⟩
  have hrules {entry : Text × Declarations} (h : entry ∈ data) :
      ∀ rule ∈ entry.2.toPairs, data.Gives rule.1 ∧ data.Gives rule.2 := fun rule hrule =>
    ⟨⟨entry, h, .inr ⟨rule, hrule, .inl rfl⟩⟩, ⟨entry, h, .inr ⟨rule, hrule, .inr rfl⟩⟩⟩
  -- The keys that were read before are keys of the data.
  refine FailsWith.bind (.foldlM_of_invariant
    (I := fun ruleSets : List (Text × RuleSet) => ∀ read ∈ ruleSets, data.Gives read.1)
    ?keep ?step (by simp)) fun _ _ => .pure _
  case keep =>
    intro ruleSets entry hentry ruleSets' hread hdeclare
    obtain ⟨ruleSet, hdeclares, -, rfl⟩ := Catalog.declare_eq_ok_iff.1 hdeclare
    refine List.forall_mem_append.2 ⟨hread, ?_⟩
    rw [List.forall_mem_singleton, hdeclares.key_eq]
    exact hkey hentry
  case step =>
    intro ruleSets entry hentry hread
    exact declare_quotes (hkey hentry) (hrules hentry) hread

end Build

/-! ### Numbers -/

/-- A failure beyond the limits tells no diagnostic. -/
theorem Failure.IsLimit.diagnostic?_eq_none {e : Failure} (h : e.IsLimit) :
    e.diagnostic? = none := by
  cases h with
  | unshown h => cases h <;> rfl
  | _ => rfl

theorem Datum.lineBreaks_kind (d : Datum) : d.kind.lineBreaks = [] := by
  cases d <;> rfl

/-- A datum that cannot be shown leaves no diagnostic. -/
theorem shown_quotes {given : Text → Prop} (d : Datum) (machine : Machine) :
    FailsWith (Failure.Quotes given) (d.shown machine) :=
  (d.shownWithin_failsWith machine.room).mono fun _ he =>
    Failure.quotes_of_none (Failure.IsLimit.unshown he).diagnostic?_eq_none

namespace Operands

variable {given : Text → Prop} {machine : Machine} {number : Datum}

theorem refuse_quotes {α : Type} {reason : Text} (h : reason.lineBreaks = []) :
    FailsWith (Failure.Quotes given) (refuse machine number reason : Except Failure α) := by
  refine (shown_quotes number machine).bind fun t ht => Complaint.raise_quotes (fun _ => rfl) ?_
  have hshown : BreaksAs given t := breaksAs_of_isPrintable (Datum.isPrintable_shown ht)
  simpa [Complaint.quotes] using ⟨hshown, breaksAs_of_lineBreaks h⟩

theorem refusePrecision_quotes {α : Type} (precision : Datum) :
    FailsWith (Failure.Quotes given) (refusePrecision machine precision : Except Failure α) := by
  refine (shown_quotes precision machine).bind fun t ht => Complaint.raise_quotes (fun _ => rfl) ?_
  have hshown : BreaksAs given t := breaksAs_of_isPrintable (Datum.isPrintable_shown ht)
  simpa [Complaint.quotes] using hshown

theorem ofDatum_quotes (machine : Machine) (number : Datum) (places : ℕ) :
    FailsWith (Failure.Quotes given) (ofDatum machine number places) := by
  have limit {α : Type} {x : Except Failure α} (h : FailsWith Failure.IsLimit x) :
      FailsWith (Failure.Quotes given) x :=
    h.mono fun e he => Failure.quotes_of_none he.diagnostic?_eq_none
  have extended (x : ExtendedDecimal) :
      FailsWith (Failure.Quotes given) (ofExtended machine number x) := by
    cases x with
    | finite d => exact limit (ofDecimal_failsWith machine d.abs)
    | infinite => exact refuse_quotes (by decide)
    | notANumber => exact refuse_quotes (by decide)
  unfold ofDatum
  split
  · exact refuse_quotes (by decide)
  · exact .ok _
  · exact (limit (Decimal.rounded_failsWith _ _)).bind fun d _ =>
      limit (ofDecimal_failsWith machine d)
  · exact refuse_quotes (by decide)
  · exact extended _
  · split
    · exact extended _
    · exact refuse_quotes (by decide)
  · exact refuse_quotes (by decide)
  · refine refuse_quotes ?_
    rw [Text.lineBreaks_append, Datum.lineBreaks_kind]
    decide

/-- Whatever is given as a number and as a precision is shown quoted. -/
theorem of_quotes (number precision : Datum) :
    FailsWith (Failure.Quotes given) (of number precision machine) := by
  unfold of
  split
  · exact ofDatum_quotes _ _ _
  · exact refusePrecision_quotes _

end Operands

/-! ### Locales -/

namespace Locale

/-- A datum that stands for no locale is shown quoted, unless it is a text. -/
theorem ofDatum_quotes {library : TagLibrary} (hlibrary : library.IsDocumented) (d : Datum) :
    FailsWith (Failure.Quotes (· ∈ d.rawTexts)) (ofDatum library d) := by
  have ofTag {given : Text → Prop} {tag : Text} (htag : given tag) :
      FailsWith (Failure.Quotes given) (ofTag library tag) := by
    unfold Locale.ofTag
    split
    · exact .ok _
    · next reason hrefused =>
      have hcode := breaksAs_of_given htag (List.Subset.refl _)
      have hreason : BreaksAs given reason :=
        breaksAs_of_isPrintable (hlibrary.isPrintable_of_parse hrefused)
      exact Complaint.raise_quotes (fun _ => rfl)
        (by simpa [Complaint.quotes] using ⟨hcode, hreason⟩)
  unfold ofDatum
  split
  · exact .ok _
  · exact ofTag List.mem_cons_self
  · exact ofTag List.mem_cons_self
  · exact .ok _
  · refine (shown_quotes d _).bind fun t ht => Complaint.raise_quotes (fun _ => rfl) ?_
    have hcode : BreaksAs (· ∈ d.rawTexts) t := breaksAs_of_isPrintable (Datum.isPrintable_shown ht)
    simpa [Complaint.quotes] using ⟨hcode, breaksAs_of_lineBreaks (by decide)⟩

end Locale

theorem Family.lineBreaks_tag (family : Family) : family.tag.lineBreaks = [] := by
  cases family <;> decide

/-- A look-up of rules takes over the names of the locale, and those come from the datum. -/
theorem Selector.rulesFor_quotes {library : TagLibrary} (hlibrary : library.IsDocumented)
    (s : Selector) (d : Datum) :
    FailsWith (Failure.Quotes (· ∈ d.rawTexts)) (s.rulesFor library d) := by
  refine (Locale.ofDatum_quotes hlibrary d).bind fun l hl => ?_
  have hname : BreaksAs (· ∈ d.rawTexts) l.name :=
    breaksAs_of_mem fun _ hbreak hmem => Locale.mem_of_ofDatum hlibrary hbreak hl (.inl hmem)
  have hlanguage : BreaksAs (· ∈ d.rawTexts) l.language :=
    breaksAs_of_mem fun _ hbreak hmem => Locale.mem_of_ofDatum hlibrary hbreak hl (.inr hmem)
  have hfamily : BreaksAs (· ∈ d.rawTexts) s.catalog.family.tag :=
    breaksAs_of_lineBreaks s.catalog.family.lineBreaks_tag
  split
  · exact .pure _
  · refine Complaint.raise_quotes (fun _ => rfl) ?_
    simp only [Complaint.quotes]
    split
    · simpa using ⟨hfamily, hname, hlanguage⟩
    · simpa using ⟨hfamily, hname⟩

/-! ### Documents -/

/-- `HasKey d key`: the datum `key` is a key of a mapping that is `d` or stands in it as a value. -/
inductive Datum.HasKey : Datum → Datum → Prop where
  | here {entries : List (Datum × Datum)} {key value : Datum} : (key, value) ∈ entries →
      HasKey (.mapping entries) key
  | inner {entries : List (Datum × Datum)} {key k value : Datum} : (k, value) ∈ entries →
      HasKey value key → HasKey (.mapping entries) key

/-- Whether the datum has a key that is written with the text as it is. -/
def Datum.GivesKey (d : Datum) (t : Text) : Prop := ∃ key, d.HasKey key ∧ t ∈ key.rawTexts

namespace Document

variable {given : Text → Prop} {name : Text} {key : Datum}

/-- A key written as text has the line breaks of the texts that it is written with. -/
theorem breaksAs_written (hkey : ∀ t ∈ key.rawTexts, given t) {t : Text}
    (ht : key.written = .ok t) :
    BreaksAs given t :=
  breaksAs_of_mem fun _ hbreak hmem =>
    have ⟨s, hs, hc⟩ := Datum.mem_of_mem_written hbreak ht hmem
    ⟨s, hkey s hs, hc⟩

theorem written_quotes (d : Datum) : FailsWith (Failure.Quotes given) d.written := by
  unfold Datum.written
  split
  · exact .ok _
  · exact .ok _
  · exact .ok _
  · exact .ok _
  · exact .ok _
  · exact shown_quotes _ _

theorem writtenPoints_quotes (d : Datum) : FailsWith (Failure.Quotes given) d.writtenPoints := by
  unfold Datum.writtenPoints
  split
  · exact .ok _
  · exact (written_quotes _).bind fun _ _ => .pure _

theorem refuseEntry_quotes {α : Type} (hname : BreaksAs given name) {t : Text}
    (ht : BreaksAs given t) : FailsWith (Failure.Quotes given)
      (refuseEntry name t : Except Failure α) := by
  refine Complaint.raise_quotes (fun _ => rfl) ?_
  simpa [Complaint.quotes] using ⟨ht, hname⟩

theorem refuse_quotes {α : Type} {t : Text} (h : t.lineBreaks = []) :
    FailsWith (Failure.Quotes given) (refuse t : Except Failure α) := by
  refine Complaint.raise_quotes (fun _ => rfl) ?_
  simpa [Complaint.quotes] using breaksAs_of_lineBreaks h

theorem decodeRule_quotes (hname : BreaksAs given name) {rule : Datum × Datum}
    (hkey : ∀ t ∈ rule.1.rawTexts, given t) :
    FailsWith (Failure.Quotes given) (decodeRule name rule) := by
  unfold decodeRule
  split
  · exact .ok _
  · exact (written_quotes _).bind fun t ht => refuseEntry_quotes hname (breaksAs_written hkey ht)

theorem decodeEntry_quotes (hname : BreaksAs given name) {entry : Datum}
    (hkeys : ∀ t, entry.GivesKey t → given t) :
    FailsWith (Failure.Quotes given) (decodeEntry name entry) := by
  unfold decodeEntry
  split
  · refine FailsWith.bind (.mapM fun rule hrule => ?_) fun _ _ => .pure _
    exact decodeRule_quotes hname fun t ht => hkeys t ⟨rule.1, .here hrule, ht⟩
  · refine (shown_quotes _ _).bind fun t ht => ?_
    exact refuseEntry_quotes hname (breaksAs_of_isPrintable (Datum.isPrintable_shown ht))

theorem decodeSection_quotes {sections : List (Datum × Datum)}
    (hkeys : ∀ t, (Datum.mapping sections).GivesKey t → given t) (family : Family) :
    FailsWith (Failure.Quotes given) (decodeSection sections family) := by
  unfold decodeSection
  split
  · exact .ok _
  · exact .ok _
  · next locales hlocales =>
    obtain ⟨k, hmem⟩ := Datum.exists_mem_of_get? hlocales
    refine FailsWith.bind (.foldlM (fun read locale hlocale => ?_) _) fun _ _ => .pure _
    refine (writtenPoints_quotes _).bind fun points hpoints => ?_
    have hname := breaksAs_written
      (fun t ht => hkeys t ⟨locale.1, .inner hmem (.here hlocale), ht⟩)
      (written_of_writtenPoints hpoints)
    refine (decodeEntry_quotes hname fun t ht => ?_).bind fun _ _ => .pure _
    obtain ⟨key, hkey, ht⟩ := ht
    exact hkeys t ⟨key, .inner hmem (.inner hlocale hkey), ht⟩
  · exact refuse_quotes (by cases family <;> decide)

/-- Decoding takes over nothing but the keys of a document. -/
theorem decode_quotes (document : Datum) :
    FailsWith (Failure.Quotes document.GivesKey) (decode document) := by
  unfold decode
  split
  · next entries =>
    unfold decodeMapping
    split
    · next sections hsections =>
      obtain ⟨k, hmem⟩ := Datum.exists_mem_of_get? hsections
      have hkeys (t : Text) (ht : (Datum.mapping sections).GivesKey t) :
          (Datum.mapping entries).GivesKey t :=
        let ⟨key, hkey, ht⟩ := ht
        ⟨key, .inner hmem hkey, ht⟩
      refine FailsWith.bind (.mapM fun family _ => decodeSection_quotes hkeys family) fun _ _ => ?_
      exact .ite (refuse_quotes (by decide)) (.pure _)
    · exact refuse_quotes (by decide)
  · exact .error (Failure.quotes_of_none rfl)

end Document

end Numerus
