import Mathlib.Data.List.Nodup
import Numerus.Json.Reader
import Numerus.Json.Writer
import Numerus.Proofs.Digits

/-!
Written JSON objects read back.

Objects are written on one line and read to the members that were written. The reader goes through
a string as the writer did, character by character; a number ends where no digit follows, and in an
object that is where a comma or the closing brace stands.

* `readString_quoted` — a string is read to the text written.
* `readValue_write` — so are the values of members.
* `read_writeObject` — an object is read to its members.
* `le_of_mem_writeObject` — its text has no control characters.
-/

namespace Numerus

namespace CodePoint

/-- Nothing is put together where no half of a pair stands. -/
theorem joinHalves_eq_self {points : List Nat} (h : ∀ n ∈ points, isHalf n = false) :
    joinHalves points = points := by
  induction points with
  | nil => rfl
  | cons high points ih =>
    obtain ⟨hhigh, hpoints⟩ := List.forall_mem_cons.1 h
    cases points with
    | nil => rfl
    | cons low points =>
      have hfirst : isHighHalf high = false := (Bool.or_eq_false_iff.1 hhigh).1
      rw [joinHalves, hfirst, Bool.false_and, if_neg (by decide), ih hpoints]

end CodePoint

theorem Datum.ofPoints_map_toNat (t : Text) : ofPoints (t.map Char.toNat) = .text t := by
  have hany : (t.map Char.toNat).any CodePoint.isHalf = false := by
    simp [CodePoint.isHalf_toNat]
  rw [ofPoints, hany, if_neg (by decide), List.map_map]
  simp [Function.comp_def]

/-- The numeral of a number opens with a zero only if it is zero. -/
theorem Numeral.eq_nil_of_ofNat_eq_zero_cons {n : Nat} {t : Text} (h : ofNat n = '0' :: t) :
    t = [] := by
  have hvalue : value t = n := by
    rw [← value_zeros_append 1 t, ← value_ofNat n, h]
    rfl
  by_contra hne
  have hdigits : ∀ c ∈ t, c.isDigit = true := fun c hc =>
    isDigit_of_mem_ofNat (h ▸ List.mem_cons_of_mem _ hc)
  obtain ⟨k, hk⟩ := exists_eq_zeros_append hne hdigits
  have hlength := congrArg List.length hk
  rw [hvalue, h] at hlength
  simp at hlength
  omega

namespace Json

/-! ### Strings -/

section Strings

variable {room : Nat}

/-- The code of a control character is read back. -/
theorem hexValue?_hexadecimal {n : Nat} (hn : n < 0x20) :
    (Numeral.hexadecimal 4 n).length = 4 ∧ hexValue? (Numeral.hexadecimal 4 n) = some n := by
  have hall : ∀ n < 0x20, (Numeral.hexadecimal 4 n).length = 4 ∧
      hexValue? (Numeral.hexadecimal 4 n) = some n := by
    decide +kernel
  exact hall n hn

/-- A character is read as it was written. -/
theorem readUnits_escape (c : Char) (t : Text) : readUnits room (escape c ++ t) = do
    let (units, rest) ← readUnits room t
    return (c.toNat :: units, rest) := by
  unfold escape
  split
  · next h => rcases h with rfl | rfl <;> rfl
  split
  · next h => subst h; rfl
  split
  · next h => subst h; rfl
  split
  · next h => subst h; rfl
  split
  · next h => subst h; rfl
  split
  · next h => subst h; rfl
  split
  · next hcontrol =>
    obtain ⟨hlength, hvalue⟩ := hexValue?_hexadecimal hcontrol
    match hhex : Numeral.hexadecimal 4 c.toNat, hlength with
    | [h₁, h₂, h₃, h₄], _ =>
      rw [hhex] at hvalue
      change readUnits room ('\\' :: 'u' :: h₁ :: h₂ :: h₃ :: h₄ :: t) = _
      rw [readUnits, hvalue]
  · next hmark _ _ _ _ _ hcontrol =>
    rw [not_or] at hmark
    rw [List.singleton_append, readUnits]
    · rw [if_neg (by simp [hcontrol, hmark.2])]
    all_goals simp_all

theorem readUnits_quoted (t rest : Text) :
    readUnits room (t.flatMap escape ++ '"' :: rest) = .ok (t.map Char.toNat, rest) := by
  induction t with
  | nil => rfl
  | cons c t ih =>
    rw [List.flatMap_cons, List.append_assoc, readUnits_escape, ih]
    rfl

/-- A string is read to the text written. -/
theorem readString_quoted (t rest : Text) :
    readString room (t.flatMap escape ++ '"' :: rest) = .ok (.text t, rest) := by
  have hjoin : CodePoint.joinHalves (t.map Char.toNat) = t.map Char.toNat :=
    CodePoint.joinHalves_eq_self fun n hn => by
      obtain ⟨c, -, rfl⟩ := List.mem_map.1 hn
      exact CodePoint.isHalf_toNat c
  rw [readString, readUnits_quoted]
  change Except.ok (Datum.ofPoints (CodePoint.joinHalves (t.map Char.toNat)), rest) = _
  rw [hjoin, Datum.ofPoints_map_toNat]

end Strings

/-! ### Values -/

/-- The datum that a member's value stands for. -/
def Scalar.datum : Scalar → Datum
  | .null => .absent
  | .text t => .text t
  | .number n => .integer n

/-- Whether a member's value is written: a number of too many digits is not. -/
def Scalar.IsWritable : Scalar → Prop
  | .number n => Numeral.isWritable n = true
  | _ => True

/-- What follows a value in an object: the comma before the next member, or the closing brace. -/
def ClosesValue (t : Text) : Prop := ∃ c rest, t = c :: rest ∧ (c = ',' ∨ c = '\x7d')

section Values

variable {bound room n : Nat} {t rest : Text} {value : Scalar}

theorem readWhole_ofNat (h : ClosesValue rest) :
    readWhole (Numeral.ofNat n ++ rest) = .ok (Numeral.ofNat n, rest) := by
  have hdigits : ∀ c ∈ Numeral.ofNat n, c.isDigit = true := fun c => Numeral.isDigit_of_mem_ofNat
  obtain ⟨stop, rest, rfl, hstop⟩ := h
  have hstop : stop.isDigit = false := by rcases hstop with rfl | rfl <;> rfl
  match hnumeral : Numeral.ofNat n with
  | [] => exact absurd hnumeral (Nat.toDigits_ne_nil)
  | c :: digits =>
    by_cases hc : c = '0'
    · subst hc
      rw [Numeral.eq_nil_of_ofNat_eq_zero_cons hnumeral]
      rfl
    · rw [hnumeral] at hdigits
      rw [readWhole, List.takeWhile_append_of_pos hdigits, List.dropWhile_append_of_pos hdigits,
        List.takeWhile_cons_of_neg (by simp [hstop]), List.dropWhile_cons_of_neg (by simp [hstop]),
        List.append_nil, if_neg (by simp)]
      intro _ heq
      exact hc (List.cons.inj heq).1

theorem readFraction_closes (h : ClosesValue rest) : readFraction rest = (none, rest) := by
  obtain ⟨c, rest, rfl, rfl | rfl⟩ := h <;> rfl

theorem readExponent_closes (h : ClosesValue rest) : readExponent rest = (none, rest) := by
  obtain ⟨c, rest, rfl, hc⟩ := h
  have hmark : ¬ (c = 'e' ∨ c = 'E') := by rcases hc with rfl | rfl <;> decide
  rw [readExponent]
  simp [hmark]

/-- A numeral is no word: it opens with a digit. -/
theorem exists_ofNat_eq_cons (n : Nat) : ∃ c digits, Numeral.ofNat n = c :: digits ∧
    c.isDigit = true := by
  match hnumeral : Numeral.ofNat n with
  | [] => exact absurd hnumeral Nat.toDigits_ne_nil
  | c :: digits =>
    exact ⟨c, digits, rfl, Numeral.isDigit_of_mem_ofNat (hnumeral ▸ List.mem_cons_self)⟩

theorem readNumber_ofNat (hn : Numeral.isWritable n = true) (h : ClosesValue rest) :
    readNumber (Numeral.ofNat n ++ rest) = .ok (.integer n, rest) := by
  obtain ⟨c, digits, hnumeral, hc⟩ := exists_ofNat_eq_cons n
  have hlength : (Numeral.ofNat n).length ≤ Fault.digitLimit := Numeral.isWritable_iff.1 hn
  have hno_sign : ∀ t, Numeral.ofNat n ++ rest ≠ '-' :: t := by
    intro t heq
    rw [hnumeral] at heq
    rw [(List.cons.inj heq).1] at hc
    exact absurd hc (by decide)
  unfold readNumber
  split
  next negative unsigned hparted =>
    split at hparted
    · next heq => exact absurd heq (hno_sign _)
    · obtain ⟨rfl, rfl⟩ := Prod.mk.inj hparted
      simp only [readWhole_ofNat h, bind, Except.bind, readFraction_closes h,
        readExponent_closes h, Numeral.read_eq_ok hlength, Numeral.value_ofNat]
      rfl

theorem readScalar_ofNat (hn : Numeral.isWritable n = true) (h : ClosesValue rest) :
    readScalar room (Numeral.ofNat n ++ rest) = .ok (.integer n, rest) := by
  obtain ⟨c, digits, hnumeral, hc⟩ := exists_ofNat_eq_cons n
  have hword {first : Char} {word : Text} (hfirst : first.isDigit = false) :
      (first :: word).isPrefixOf (Numeral.ofNat n ++ rest) = false := by
    rw [hnumeral, List.cons_append, List.isPrefixOf, Bool.and_eq_false_iff]
    exact .inl (by simpa using fun heq : first = c => by simp [heq, hc] at hfirst)
  have hwords : words.find? (·.1.isPrefixOf (Numeral.ofNat n ++ rest)) = none := by
    simp [words, hword]
  have hnumberWords : numberWords.find? (·.1.isPrefixOf (Numeral.ofNat n ++ rest)) = none := by
    simp [numberWords, hword]
  rw [readScalar, hwords, hnumberWords]
  exact readNumber_ofNat hn h

/-- Values are read as they were written. -/
theorem readValue_write (hvalue : value.IsWritable) (h : ClosesValue rest) :
    readValue bound room (value.write ++ rest) = .ok (value.datum, rest) := by
  cases value with
  | null =>
    obtain ⟨c, rest, rfl, -⟩ := h
    cases room <;> rfl
  | text t =>
    rw [Scalar.write, quote, List.cons_append, List.cons_append, List.append_assoc, readValue]
    exact readString_quoted t rest
  | number n =>
    obtain ⟨c, digits, hnumeral, hc⟩ := exists_ofNat_eq_cons n
    have hscalar : readScalar room (Numeral.ofNat n ++ rest) = _ := readScalar_ofNat hvalue h
    rw [Scalar.write]
    rw [hnumeral, List.cons_append] at hscalar ⊢
    rw [readValue]
    · exact hscalar
    all_goals
      intros
      simp_all

/-- No white space stands in front of a value. -/
theorem skip_write (value : Scalar) (t : Text) : skip (value.write ++ t) = value.write ++ t := by
  have hskip {c : Char} (rest : Text) (hc : isSpace c = false) : skip (c :: rest) = c :: rest :=
    List.dropWhile_cons_of_neg (by simp [hc])
  cases value with
  | null => exact hskip _ rfl
  | text t => exact hskip _ rfl
  | number n =>
    obtain ⟨c, digits, hnumeral, hc⟩ := exists_ofNat_eq_cons n
    rw [Scalar.write, hnumeral]
    refine hskip _ (Bool.eq_false_iff.2 fun hspace => ?_)
    simp only [isSpace, Bool.or_eq_true, beq_iff_eq] at hspace
    rcases hspace with ((rfl | rfl) | rfl) | rfl <;> exact absurd hc (by decide)

end Values

/-! ### Objects -/

section Objects

variable {bound room fuel : Nat} {key rest : Text} {value : Scalar}
  {members : List (Text × Scalar)}

/-- The member of a mapping that a written member stands for. -/
def pair (member : Text × Scalar) : Datum × Datum := (.text member.1, member.2.datum)

theorem readMember_writeMember (hvalue : value.IsWritable) (h : ClosesValue rest) :
    readMember room (readValue bound room) (writeMember key value ++ rest) =
      .ok (pair (key, value), rest) := by
  have hmember : writeMember key value ++ rest =
      '"' :: (key.flatMap escape ++ '"' :: ':' :: ' ' :: (value.write ++ rest)) := by
    simp [writeMember, quote]
  have hcolon (t : Text) : skip (':' :: t) = ':' :: t := rfl
  have hspace (t : Text) : skip (' ' :: t) = skip t := rfl
  rw [hmember, readMember, readString_quoted]
  simp only [bind, Except.bind, hcolon, hspace, skip_write, readValue_write hvalue h]
  rfl

/-- The members of an object, one after another. -/
def writeMembers (members : List (Text × Scalar)) : Text :=
  Text.joined ", " (members.map fun m => writeMember m.1 m.2)

theorem writeMembers_singleton (member : Text × Scalar) :
    writeMembers [member] = writeMember member.1 member.2 := by
  simp [writeMembers, Text.joined, List.intercalate_singleton]

theorem writeMembers_cons_cons (member next : Text × Scalar) (members : List (Text × Scalar)) :
    writeMembers (member :: next :: members) =
      writeMember member.1 member.2 ++ ", " ++ writeMembers (next :: members) := by
  simp [writeMembers, Text.joined, List.intercalate_cons_cons]

theorem exists_writeMembers_eq_cons (member : Text × Scalar) (members : List (Text × Scalar)) :
    ∃ t, writeMembers (member :: members) = '"' :: t := by
  obtain ⟨rest, hrest⟩ : ∃ rest, writeMembers (member :: members) =
      writeMember member.1 member.2 ++ rest := by
    cases members with
    | nil => exact ⟨[], by simp [writeMembers_singleton]⟩
    | cons next members => exact ⟨_, by rw [writeMembers_cons_cons, List.append_assoc]⟩
  exact ⟨_, hrest⟩

/-- Members are read up to the closing brace. -/
theorem readMembers_writeMembers (hne : members ≠ []) (hfuel : members.length ≤ fuel)
    (hvalues : ∀ member ∈ members, member.2.IsWritable) :
    readMembers room (readValue bound room) fuel (writeMembers members ++ '\x7d' :: rest) =
      .ok (members.map pair, rest) := by
  induction members generalizing fuel with
  | nil => exact absurd rfl hne
  | cons member members ih =>
    obtain ⟨hvalue, hvalues⟩ := List.forall_mem_cons.1 hvalues
    match fuel, hfuel with
    | fuel + 1, hfuel =>
      cases members with
      | nil =>
        rw [writeMembers_singleton, readMembers,
          readMember_writeMember hvalue ⟨_, _, rfl, .inr rfl⟩]
        rfl
      | cons next members =>
        have hrest := ih (List.cons_ne_nil _ _) (Nat.le_of_succ_le_succ hfuel) hvalues
        have hspace : skip (' ' :: (writeMembers (next :: members) ++ '\x7d' :: rest)) =
            writeMembers (next :: members) ++ '\x7d' :: rest := by
          obtain ⟨t, ht⟩ := exists_writeMembers_eq_cons next members
          rw [ht]
          rfl
        have hcomma (t : Text) : skip (',' :: t) = ',' :: t := rfl
        rw [writeMembers_cons_cons, List.append_assoc, List.append_assoc, readMembers]
        change (readMember room (readValue bound room) (writeMember member.1 member.2 ++
          ',' :: ' ' :: (writeMembers (next :: members) ++ '\x7d' :: rest)) >>= _) = _
        rw [readMember_writeMember hvalue ⟨_, _, rfl, .inl rfl⟩]
        simp only [bind, Except.bind, hcomma, hspace, hrest]
        rfl

/-- Every member has characters, so no object has more members than characters. -/
theorem length_le_writeMembers (members : List (Text × Scalar)) :
    members.length ≤ (writeMembers members).length := by
  induction members with
  | nil => exact Nat.zero_le _
  | cons member members ih =>
    have hmember : 1 ≤ (writeMember member.1 member.2).length := by simp [writeMember, quote]
    cases members with
    | nil => simpa [writeMembers_singleton] using hmember
    | cons next members =>
      rw [writeMembers_cons_cons, List.length_append, List.length_append, List.length_cons]
      omega

theorem readObject_writeMembers (hkeys : (members.map (·.1)).Nodup)
    (hvalues : ∀ member ∈ members, member.2.IsWritable) (hbound : members.length ≤ bound) :
    readObject bound room (readValue bound room) (writeMembers members ++ '\x7d' :: rest) =
      .ok (.mapping (members.map pair), rest) := by
  cases members with
  | nil => rfl
  | cons member members =>
    have hmembers : readMembers room (readValue bound room) bound
        (writeMembers (member :: members) ++ '\x7d' :: rest) = _ :=
      readMembers_writeMembers (List.cons_ne_nil _ _) hbound hvalues
    have hdistinct : ((member :: members).map pair).Pairwise
        fun a b => Datum.sameKey a.1 b.1 = false := by
      rw [List.pairwise_map]
      exact (List.pairwise_map.1 hkeys).imp fun hne => by simpa [pair, Datum.sameKey] using hne
    obtain ⟨t, ht⟩ := exists_writeMembers_eq_cons member members
    have hopens (t : Text) : readObject bound room (readValue bound room) ('"' :: t) =
        (readMembers room (readValue bound room) bound ('"' :: t)).map fun read =>
          (.mapping (Entries.ofList Datum.sameKey read.1), read.2) := by
      change Except.bind _ _ = _
      cases readMembers room (readValue bound room) bound ('"' :: t) <;> rfl
    rw [ht, List.cons_append] at hmembers ⊢
    rw [hopens, hmembers, Except.map, Entries.ofList_of_distinct hdistinct]

/-- An object whose keys differ is read to its members. -/
theorem read_writeObject (hkeys : (members.map (·.1)).Nodup)
    (hvalues : ∀ member ∈ members, member.2.IsWritable) :
    read (writeObject members) = .ok (.mapping (members.map pair)) := by
  have hobject : writeObject members = '\x7b' :: (writeMembers members ++ ['\x7d']) := rfl
  have hskip (t : Text) : skip ('\x7b' :: t) = '\x7b' :: t := rfl
  have hdepth : nestingLimit = 990 + 1 := rfl
  have hbound : members.length ≤ (writeObject members).length := by
    rw [hobject, List.length_cons, List.length_append]
    exact Nat.le_add_right_of_le (Nat.le_add_right_of_le (length_le_writeMembers members))
  rw [read, hdepth]
  generalize (writeObject members).length = bound at hbound
  rw [hobject, hskip, readValue, readObject_writeMembers hkeys hvalues hbound]
  rfl

end Objects

/-! ### Control characters -/

section Controls

variable {c : Char} {members : List (Text × Scalar)}

theorem le_of_isDigit (h : c.isDigit = true) : 0x20 ≤ c.toNat := by
  simp only [Char.isDigit, Bool.and_eq_true, decide_eq_true_eq, UInt32.le_iff_toNat_le] at h
  exact Nat.le_trans (by decide) h.1

/-- No control character is written for a character. -/
theorem le_of_mem_escape {d : Char} (h : d ∈ escape c) : 0x20 ≤ d.toNat := by
  have hhex : ∀ n < 0x20, (Numeral.hexadecimal 4 n).all (0x20 ≤ ·.toNat) = true := by
    decide +kernel
  have hshort {a b : Char} (ha : 0x20 ≤ a.toNat) (hb : 0x20 ≤ b.toNat) (h : d ∈ [a, b]) :
      0x20 ≤ d.toNat := by
    rcases List.mem_pair.1 h with rfl | rfl
    · exact ha
    · exact hb
  unfold escape at h
  split at h
  · next hmark =>
    refine hshort (by decide) ?_ h
    rcases hmark with rfl | rfl <;> decide
  split at h
  · exact hshort (by decide) (by decide) h
  split at h
  · exact hshort (by decide) (by decide) h
  split at h
  · exact hshort (by decide) (by decide) h
  split at h
  · exact hshort (by decide) (by decide) h
  split at h
  · exact hshort (by decide) (by decide) h
  split at h
  · next hcontrol =>
    rcases List.mem_append.1 h with h | h
    · exact hshort (by decide) (by decide) h
    · simpa using List.all_eq_true.1 (hhex _ hcontrol) d h
  · next hcontrol =>
    rw [List.mem_singleton.1 h]
    omega

theorem le_of_mem_quote {t : Text} (h : c ∈ quote t) : 0x20 ≤ c.toNat := by
  simp only [quote, List.mem_cons, List.cons_append, List.mem_append, List.not_mem_nil,
    or_false] at h
  rcases h with rfl | h | rfl
  · decide
  · obtain ⟨d, -, hd⟩ := List.mem_flatMap.1 h
    exact le_of_mem_escape hd
  · decide

theorem le_of_mem_write {value : Scalar} (h : c ∈ value.write) : 0x20 ≤ c.toNat := by
  cases value with
  | null =>
    have hall : ("null".toList).all (0x20 ≤ ·.toNat) = true := by decide
    simpa using List.all_eq_true.1 hall c h
  | text t => exact le_of_mem_quote h
  | number n => exact le_of_isDigit (Numeral.isDigit_of_mem_ofNat h)

theorem le_of_mem_writeMember {key : Text} {value : Scalar} (h : c ∈ writeMember key value) :
    0x20 ≤ c.toNat := by
  rcases List.mem_append.1 h with h | h
  · rcases List.mem_append.1 h with h | h
    · exact le_of_mem_quote h
    · rcases List.mem_pair.1 h with rfl | rfl <;> decide
  · exact le_of_mem_write h

theorem le_of_mem_writeMembers (h : c ∈ writeMembers members) : 0x20 ≤ c.toNat := by
  induction members with
  | nil => exact absurd h List.not_mem_nil
  | cons member members ih =>
    cases members with
    | nil =>
      rw [writeMembers_singleton] at h
      exact le_of_mem_writeMember h
    | cons next members =>
      rw [writeMembers_cons_cons, List.mem_append, List.mem_append] at h
      rcases h with (h | h) | h
      · exact le_of_mem_writeMember h
      · rcases List.mem_pair.1 h with rfl | rfl <;> decide
      · exact ih h

/-- No control character is written for an object. -/
theorem le_of_mem_writeObject (h : c ∈ writeObject members) : 0x20 ≤ c.toNat := by
  change c ∈ '\x7b' :: (writeMembers members ++ ['\x7d']) at h
  rw [List.mem_cons, List.mem_append, List.mem_singleton] at h
  rcases h with rfl | h | rfl
  · decide
  · exact le_of_mem_writeMembers h
  · decide

end Controls

end Json

end Numerus
