/-!
Entries: values under keys, each key once, in the order in which the keys were first put in.

What counts as the same key is a parameter. A value that is put in under a key that is there
already takes the place of the value before it, and the key stays as it was first written.
-/

namespace Numerus.Entries

variable {K V : Type}

/-- The entries with `value` under `key`: in the place of the entry with the same key, or at the
end if there is none. -/
def put (same : K → K → Bool) (entries : List (K × V)) (key : K) (value : V) : List (K × V) :=
  match entries with
  | [] => [(key, value)]
  | entry :: entries =>
    if same entry.1 key then (entry.1, value) :: entries
    else entry :: put same entries key value

/-- The entries with the given keys and values, put in one after another. -/
def ofList (same : K → K → Bool) (pairs : List (K × V)) : List (K × V) :=
  pairs.foldl (fun entries pair => put same entries pair.1 pair.2) []

/-- The value under a key. -/
def get? (same : K → K → Bool) (entries : List (K × V)) (key : K) : Option V :=
  (entries.find? fun entry => same entry.1 key).map (·.2)

variable {same : K → K → Bool}

/-- Putting in a new key adds it at the end. -/
theorem put_of_new {entries : List (K × V)} {key : K}
    (h : ∀ entry ∈ entries, same entry.1 key = false) (value : V) :
    put same entries key value = entries ++ [(key, value)] := by
  induction entries with
  | nil => rfl
  | cons entry entries ih =>
    rw [put, h entry List.mem_cons_self, ih fun e he => h e (List.mem_cons_of_mem _ he)]
    simp

/-- Keys that differ from one another are kept as they are. -/
theorem ofList_of_distinct {pairs : List (K × V)}
    (h : pairs.Pairwise fun a b => same a.1 b.1 = false) : ofList same pairs = pairs := by
  have go : ∀ (rest entries : List (K × V)),
      (entries ++ rest).Pairwise (fun a b => same a.1 b.1 = false) →
      rest.foldl (fun entries pair => put same entries pair.1 pair.2) entries
        = entries ++ rest := by
    intro rest
    induction rest with
    | nil => simp
    | cons pair rest ih =>
      intro entries he
      have hnew : ∀ entry ∈ entries, same entry.1 pair.1 = false := fun entry hm =>
        (List.pairwise_append.1 he).2.2 entry hm pair List.mem_cons_self
      rw [List.foldl_cons, put_of_new hnew, ih (entries ++ [(pair.1, pair.2)]) (by simpa using he)]
      simp
  simpa [ofList] using go pairs [] (by simpa using h)

section Put

variable {P : K → Prop} {Q : V → Prop} {entries : List (K × V)} {key : K} {value : V}

/-- What is true of all keys and of all values stays so. -/
theorem forall_mem_put (h : ∀ entry ∈ entries, P entry.1 ∧ Q entry.2) (hkey : P key)
    (hvalue : Q value) : ∀ entry ∈ put same entries key value, P entry.1 ∧ Q entry.2 := by
  induction entries with
  | nil =>
    rw [put, List.forall_mem_singleton]
    exact ⟨hkey, hvalue⟩
  | cons first entries ih =>
    obtain ⟨hfirst, hentries⟩ := List.forall_mem_cons.1 h
    rw [put]
    split
    · exact List.forall_mem_cons.2 ⟨⟨hfirst.1, hvalue⟩, hentries⟩
    · exact List.forall_mem_cons.2 ⟨hfirst, ih hentries⟩

/-- Keys that differ from one another still do so when one more is put in. -/
theorem put_pairwise (h : entries.Pairwise fun a b => same a.1 b.1 = false) :
    (put same entries key value).Pairwise fun a b => same a.1 b.1 = false := by
  induction entries with
  | nil => exact List.pairwise_singleton _ _
  | cons first entries ih =>
    obtain ⟨hfirst, hentries⟩ := List.pairwise_cons.1 h
    rw [put]
    split
    · exact List.pairwise_cons.2 ⟨hfirst, hentries⟩
    · next hnot =>
      have hkeys : ∀ entry ∈ put same entries key value, same first.1 entry.1 = false ∧ True :=
        forall_mem_put (P := (same first.1 · = false)) (Q := fun _ => True)
          (fun entry hentry => ⟨hfirst entry hentry, trivial⟩) (by simpa using hnot) trivial
      exact List.pairwise_cons.2 ⟨fun entry hentry => (hkeys entry hentry).1, ih hentries⟩

/-- The keys of entries differ from one another, and what is true of all keys and values that are
put in is true of those of the entries. -/
theorem ofList_spec {pairs : List (K × V)} (h : ∀ pair ∈ pairs, P pair.1 ∧ Q pair.2) :
    ((ofList same pairs).Pairwise fun a b => same a.1 b.1 = false) ∧
      ∀ entry ∈ ofList same pairs, P entry.1 ∧ Q entry.2 := by
  refine List.foldlRecOn
    (motive := fun entries : List (K × V) => (entries.Pairwise fun a b => same a.1 b.1 = false) ∧
      ∀ entry ∈ entries, P entry.1 ∧ Q entry.2) pairs _ ⟨.nil, by simp⟩ ?_
  rintro entries ⟨hdiffer, hentries⟩ pair hpair
  obtain ⟨hkey, hvalue⟩ := h pair hpair
  exact ⟨put_pairwise hdiffer, forall_mem_put hentries hkey hvalue⟩

end Put

section Lookup

variable [BEq K] [LawfulBEq K] {entries : List (K × V)} {key : K}

/-- The value of a key that has one value is found under it. -/
theorem lookup_eq_some_iff {value : V}
    (h : ∀ v w, (key, v) ∈ entries → (key, w) ∈ entries → v = w) :
    entries.lookup key = some value ↔ (key, value) ∈ entries := by
  induction entries with
  | nil => simp
  | cons entry entries ih =>
    obtain ⟨key', value'⟩ := entry
    have hrest := ih fun v w hv hw => h v w (List.mem_cons_of_mem _ hv) (List.mem_cons_of_mem _ hw)
    rw [List.lookup_cons, List.mem_cons]
    by_cases heq : key = key'
    · subst heq
      rw [beq_self_eq_true, Prod.mk.injEq]
      constructor
      · intro hvalue
        exact .inl ⟨rfl, (Option.some.inj hvalue).symm⟩
      · rintro (⟨-, rfl⟩ | hmem)
        · rfl
        · exact congrArg some (h _ _ List.mem_cons_self (List.mem_cons_of_mem _ hmem))
    · have hbeq : (key == key') = false := by simpa using heq
      simp [heq, hbeq, hrest]

theorem lookup_eq_none_iff : entries.lookup key = none ↔ ∀ value, (key, value) ∉ entries := by
  rw [List.lookup_eq_none_iff]
  constructor
  · intro h value hmem
    simpa using h _ hmem
  · rintro h ⟨key', value⟩ hmem
    by_cases heq : key = key'
    · exact absurd (heq ▸ hmem) (h value)
    · simpa using heq

end Lookup

end Numerus.Entries
