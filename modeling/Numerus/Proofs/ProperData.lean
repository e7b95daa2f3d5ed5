import Numerus.Datum.Basic

/-!
Data as they are built.

The type of data has room for mappings in which a key repeats and for texts that are kept as code
points without need. `Datum.Proper` leaves them out. What reads texts and builds mappings gives
proper data only.

* `Datum.proper_ofPoints`, `Datum.proper_mappingOf` — data that are built are proper.
* `Datum.Proper.eq_text` — how the text of a proper datum is kept.
-/

namespace Numerus

namespace Datum

/-- What is true of data as they are built: the keys of a mapping differ from one another, and only
a text with a half of a pair is kept as code points. -/
inductive Proper : Datum → Prop where
  | mapping {entries : List (Datum × Datum)} :
      entries.Pairwise (fun a b => a.1.sameKey b.1 = false) →
      (∀ entry ∈ entries, entry.1.Proper) → (∀ entry ∈ entries, entry.2.Proper) →
      Proper (.mapping entries)
  | sequence {items : List Datum} : (∀ item ∈ items, item.Proper) → Proper (.sequence items)
  | brokenText {points : List Nat} : points.any CodePoint.isHalf = true → Proper (.brokenText points)
  | other {d : Datum} : (∀ entries, d ≠ .mapping entries) → (∀ items, d ≠ .sequence items) →
      (∀ points, d ≠ .brokenText points) → Proper d

theorem proper_text (t : Text) : (text t).Proper := .other nofun nofun nofun

theorem proper_ofPoints (points : List Nat) : (ofPoints points).Proper := by
  unfold ofPoints
  split
  · next h => exact .brokenText h
  · exact proper_text _

theorem proper_mapping_iff {entries : List (Datum × Datum)} : (mapping entries).Proper ↔
    entries.Pairwise (fun a b => a.1.sameKey b.1 = false) ∧ (∀ entry ∈ entries, entry.1.Proper) ∧
      ∀ entry ∈ entries, entry.2.Proper := by
  constructor
  · intro h
    cases h with
    | mapping hdiffer hkeys hvalues => exact ⟨hdiffer, hkeys, hvalues⟩
    | other hne => exact absurd rfl (hne entries)
  · rintro ⟨hdiffer, hkeys, hvalues⟩
    exact .mapping hdiffer hkeys hvalues

/-- A mapping is built with keys that differ from one another. -/
theorem proper_mappingOf {pairs : List (Datum × Datum)} {d : Datum}
    (hpairs : ∀ pair ∈ pairs, pair.1.Proper ∧ pair.2.Proper) (h : mappingOf pairs = .ok d) :
    d.Proper := by
  unfold mappingOf at h
  split at h
  · obtain rfl := Except.ok.inj h
    obtain ⟨hdiffer, hentries⟩ := Entries.ofList_spec hpairs
    exact .mapping hdiffer (fun entry hentry => (hentries entry hentry).1)
      fun entry hentry => (hentries entry hentry).2
  · cases h

/-- A value under a key is the value of an entry. -/
theorem exists_mem_of_get? {entries : List (Datum × Datum)} {key : Text} {value : Datum}
    (h : get? entries key = some value) : ∃ k, (k, value) ∈ entries := by
  obtain ⟨entry, hfind, rfl⟩ := Option.map_eq_some_iff.1 h
  exact ⟨entry.1, List.mem_of_find?_eq_some hfind⟩

theorem Proper.get? {entries : List (Datum × Datum)} {key : Text} {value : Datum}
    (h : (Datum.mapping entries).Proper) (hvalue : Datum.get? entries key = some value) :
    value.Proper := by
  obtain ⟨k, hmem⟩ := exists_mem_of_get? hvalue
  exact (proper_mapping_iff.1 h).2.2 _ hmem

/-- A text without the sign for a half of a pair is not kept as code points. -/
theorem Proper.eq_text {d : Datum} {t : Text} (h : d.Proper) (ht : d.text? = some t)
    (hreplaced : '\ufffd' ∉ t) : d = .text t := by
  cases d with
  | text value =>
    obtain rfl := Option.some.inj ht
    rfl
  | brokenText points =>
    obtain rfl := Option.some.inj ht
    have hhalf : points.any CodePoint.isHalf = true := by
      cases h with
      | brokenText hhalf => exact hhalf
      | other _ _ hne => exact absurd rfl (hne points)
    obtain ⟨n, hmem, hn⟩ := List.any_eq_true.1 hhalf
    have hsign : CodePoint.toChar n = '\ufffd' := by simp [CodePoint.toChar, hn]
    exact absurd (hsign ▸ List.mem_map_of_mem hmem) hreplaced
  | _ => cases ht

end Datum

end Numerus
