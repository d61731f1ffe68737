/-
  The name of a configuration, in ASCII.

  * `exists_place`: what is given to a field stands in a place of the text.
  * `Place.Names`: a text that gives a name.
  * `load_congr`: of the value in a place, loading sees only what it gives.
  * `load_of_plainName`: a plain name is shown in lower case, and a text with the
    same name in other letter case loads as the same configuration.
-/
import NearestHost.Proofs.Configuration.Hosts
import NearestHost.Proofs.Dns.Name
import NearestHost.Proofs.Dns.Record
import NearestHost.Service

namespace NearestHost.Configuration

open Json (Quoted Tree Written orData)

variable {now : Instant} {bs bs' : List UInt8} {c : Configuration} {d e : Draft} {f : Field}
  {t v v' : Tree} {n : Nat} {x x' : String}

/-! ## The place of a field -/

theorem exists_member {ms : List (Quoted × Tree)} (h : ms.foldlM Draft.member d = .ok e)
    (hd : d.has f = false) (he : e.has f = true) :
    ∃ before key v after name, ms = before ++ (key, v) :: after ∧ key.text? = some name ∧
      Field.ofKey? name = some f := by
  induction ms generalizing d with
  | nil =>
    cases h
    exact absurd (hd.symm.trans he) Bool.false_ne_true
  | cons m ms ih =>
    obtain ⟨i, hi, h⟩ := Json.foldlM_cons_ok.1 h
    cases hhas : i.has f with
    | false =>
      obtain ⟨before, key, v, after, name, rfl, hkey, hname⟩ := ih h hhas
      exact ⟨m :: before, key, v, after, name, rfl, hkey, hname⟩
    | true =>
      obtain ⟨name, hkey, ⟨-, rfl⟩ | ⟨f', g, hname, -, hread, rfl⟩⟩ := member_ok.1 hi
      · exact absurd (hd.symm.trans hhas) Bool.false_ne_true
      · -- The member gives the field that was not there before it.
        have hf : f' = f := by
          rw [← read_field hread]
          exact (has_give.1 hhas).resolve_left (by simp [hd])
        exact ⟨[], m.1, m.2, ms, name, rfl, hkey, hf ▸ hname⟩

theorem exists_element {ts : List Tree} (h : d.elements n ts = .ok e) (hd : d.has f = false)
    (he : e.has f = true) :
    ∃ before v after, ts = before ++ v :: after ∧ Field.ofIndex? (n + before.length) = some f := by
  induction ts generalizing d n with
  | nil =>
    cases h
    exact absurd (hd.symm.trans he) Bool.false_ne_true
  | cons t ts ih =>
    rw [Draft.elements] at h
    split at h
    · cases h
    · rename_i f' hindex
      obtain ⟨g, hread, h⟩ := Json.bind_eq_ok.1 h
      cases hhas : (d.give g).has f with
      | false =>
        obtain ⟨before, v, after, rfl, hf⟩ := ih h hhas
        refine ⟨t :: before, v, after, rfl, ?_⟩
        rwa [List.length_cons, Nat.add_comm before.length, ← Nat.add_assoc]
      | true =>
        have hf : f' = f := by
          rw [← read_field hread]
          exact (has_give.1 hhas).resolve_left (by simp [hd])
        exact ⟨[], t, ts, rfl, hf ▸ hindex⟩

/-- **What is given to a field stands in a place** of the value. -/
theorem exists_place (h : draftOf t = .ok d) (hd : d.has f = true) :
    ∃ (place : Place f) (v : Tree), t = place.fill v := by
  cases t with
  | scalar s =>
    obtain ⟨-, -, h⟩ := Json.bind_eq_ok.1 h
    cases h
  | array ts =>
    obtain ⟨before, v, after, rfl, hindex⟩ := exists_element h (by cases f <;> rfl) hd
    rw [Nat.zero_add] at hindex
    exact ⟨.element before after hindex, v, rfl⟩
  | object ms =>
    obtain ⟨before, key, v, after, name, rfl, hkey, hname⟩ :=
      exists_member h (by cases f <;> rfl) hd
    exact ⟨.member before after key hkey hname, v, rfl⟩

/-- The value in a place gives what the draft has in its field. -/
theorem Place.read_of_draftOf {place : Place f} (h : draftOf (place.fill v) = .ok d) :
    ∃ g, f.read v = .ok g ∧ d.give g = d := by
  have hsame := place.draftOf_fill h v
  rw [h] at hsame
  exact Json.map_eq_ok.1 hsame.symm

/-- **Of the value in a place, loading sees only what it gives.** -/
theorem load_congr {place : Place f} (hbs : Written (place.fill v).lexemes bs)
    (hc : load now ⟨bs, .complete⟩ = .ok c) (hbs' : Written (place.fill v').lexemes bs')
    (hread : f.read v' = f.read v) (now' : Instant) :
    load now' ⟨bs', .complete⟩ = load now' ⟨bs, .complete⟩ := by
  obtain ⟨d, hd, -⟩ := draft_of_load hbs hc
  have hdraft : draftOf (place.fill v') = draftOf (place.fill v) := by
    rw [place.draftOf_fill hd v', place.draftOf_fill hd v, hread]
  rw [load, load, decode_tree hbs', decode_tree hbs, configurationOf, configurationOf, hdraft]

/-! ## Names -/

/-- A text with a string for the name, in any layout and with any escapes. -/
def Place.Names (place : Place .name) (x : String) (bs : List UInt8) : Prop :=
  ∃ q : Quoted, q.text? = some x ∧ Written (place.fill (.scalar (.text q))).lexemes bs

theorem read_name {q : Quoted} (h : q.text? = some x) :
    Field.name.read (.scalar (.text q)) = (orData (Dns.Name.ofString? x)).map .name :=
  read_quoted h

theorem text_of_read_name {g : Given} (h : Field.name.read v = .ok g) :
    ∃ (q : Quoted) (x : String), v = .scalar (.text q) ∧ q.text? = some x := by
  cases v with
  | scalar s =>
    obtain ⟨ev, hev, h⟩ := Json.bind_eq_ok.1 h
    rw [Json.orGrammar_eq_ok] at hev
    cases s with
    | word w =>
      cases hev
      cases h
    | number m =>
      obtain ⟨y, -, rfl⟩ := Option.map_eq_some_iff.1 hev
      cases h
    | text q =>
      obtain ⟨x, hx, -⟩ := Option.map_eq_some_iff.1 hev
      exact ⟨q, x, rfl, hx⟩
  | array ts => cases h
  | object ms => cases h

/-- Every text that loads gives a name. -/
theorem exists_names (hc : load now ⟨bs, .complete⟩ = .ok c) :
    ∃ (place : Place .name) (x : String), place.Names x bs := by
  obtain ⟨⟨t, hbs⟩, -⟩ := load_rearranged hc
  obtain ⟨d, hd, hwhole⟩ := draft_of_load hbs hc
  have hname : d.has .name = true := by
    obtain ⟨n, hn, -⟩ := Option.map_eq_some_iff.1 hwhole
    exact Option.isSome_iff_exists.2 ⟨n, hn⟩
  obtain ⟨place, v, rfl⟩ := exists_place hd hname
  obtain ⟨g, hread, -⟩ := place.read_of_draftOf hd
  obtain ⟨q, x, rfl, hx⟩ := text_of_read_name hread
  exact ⟨place, x, q, hx, hbs⟩

/-- The name of a configuration is that of its text. -/
theorem name_of_load {place : Place .name} (hx : place.Names x bs)
    (hc : load now ⟨bs, .complete⟩ = .ok c) : Dns.Name.ofString? x = some c.name := by
  obtain ⟨q, hq, hbs⟩ := hx
  obtain ⟨d, hd, hwhole⟩ := draft_of_load hbs hc
  obtain ⟨g, hread, hgive⟩ := place.read_of_draftOf hd
  rw [read_name hq] at hread
  obtain ⟨n, hn, rfl⟩ := Json.map_eq_ok.1 hread
  rw [Json.orData_eq_ok] at hn
  rw [← hgive] at hwhole
  rw [hn, ← Option.some.inj hwhole]

theorem load_of_sameName {place : Place .name} (hx : place.Names x bs)
    (hc : load now ⟨bs, .complete⟩ = .ok c) (hx' : place.Names x' bs')
    (hsame : Dns.Name.ofString? x' = Dns.Name.ofString? x) (now' : Instant) :
    load now' ⟨bs', .complete⟩ = load now' ⟨bs, .complete⟩ := by
  obtain ⟨q, hq, hbs⟩ := hx
  obtain ⟨q', hq', hbs'⟩ := hx'
  exact load_congr hbs hc hbs' (by rw [read_name hq, read_name hq', hsame]) now'

/-! ## Names in ASCII -/

/-- **A name in ASCII is shown in lower case, and its letter case does not matter.**  Every text
    that loads gives a name.  Where this is plain, all records of all answers show it in lower case,
    with the last point if it has one, and its labels have one byte up to 63.  All texts that give
    it in other letter case, or as it is shown, have the same name; and one that is else the same
    loads in the same way at any time, so it brings the same records. -/
theorem load_of_plainName (hc : load now ⟨bs, .complete⟩ = .ok c) :
    (∃ (place : Place .name) (x : String), place.Names x bs) ∧
    ∀ (place : Place .name) (x : String), place.Names x bs → Dns.Name.Plain x.toList →
      c.name.toString = x.toLower ∧
      (∀ metric a, ∀ r ∈ Service.toDns ⟨metric, c⟩ a, r.name.toString = x.toLower) ∧
      (c.name.qualified = true ↔ x.toList.getLast? = some '.') ∧
      (∀ l ∈ c.name.labels, 1 ≤ Dns.byteSize l ∧ Dns.byteSize l ≤ 63) ∧
      ∀ (x' : String) (bs' : List UInt8), x'.toLower = x.toLower ∨ x' = c.name.toString →
        (∀ (place' : Place .name) now' c', place'.Names x' bs' →
          load now' ⟨bs', .complete⟩ = .ok c' → c'.name = c.name) ∧
        (place.Names x' bs' →
          (∀ now', load now' ⟨bs', .complete⟩ = load now' ⟨bs, .complete⟩) ∧
          ∃ c', load now ⟨bs', .complete⟩ = .ok c' ∧ ∀ metric query,
            Service.answerDns ⟨metric, c'⟩ query = Service.answerDns ⟨metric, c⟩ query) := by
  refine ⟨exists_names hc, fun place x hx hplain => ?_⟩
  have hname := name_of_load hx hc
  have hshown := Dns.Name.toString_of_plain hplain hname
  obtain ⟨-, hqualified, hlabels⟩ := Dns.Name.name_of_plain hplain hname
  refine ⟨hshown, fun metric a r hr => ?_, by simp [hqualified], hlabels, fun x' bs' hcase => ?_⟩
  · rw [(Dns.mem_records.1 hr).1]
    exact hshown
  · have hlower : x'.toLower = x.toLower := by
      rcases hcase with h | rfl
      · exact h
      · rw [hshown, Dns.Name.toLower_toLower]
    have hsame := Dns.Name.ofString?_of_sameLower hplain hlower
    refine ⟨fun place' now' c' hx' hc' => ?_, fun hx' => ?_⟩
    · rw [name_of_load hx' hc', hname] at hsame
      exact Option.some.inj hsame
    · have hload := load_of_sameName hx hc hx' hsame
      exact ⟨hload, c, (hload now).trans hc, fun _ _ => rfl⟩

/-! ## A wildcard -/

/-- The name in the sample, in front of its other members. -/
def namePlace : Place .name :=
  .member [] (sampleMembers []).tail (plain "name")
    (show (plain "name").text? = some "name" by decide +kernel) rfl

/-- The sample with another name. -/
def sampleNamed (x : String) : List UInt8 := spaced [] (namePlace.fill (textTree x)).lexemes

theorem names_sampleNamed (h : (plain x).text? = some x) : namePlace.Names x (sampleNamed x) :=
  ⟨plain x, h, written_spaced (List.forall_mem_nil _) _⟩

theorem plain_wildcard : Dns.Name.Plain "*._TCP.Geo-1.Example.".toList where
  ascii := by simp
  unescaped := by decide
  decoded := by decide

theorem wildcard_loads :
    ∃ c, load ⟨0, 0⟩ ⟨sampleNamed "*._TCP.Geo-1.Example.", .complete⟩ = .ok c := by
  have hok : (match load ⟨0, 0⟩ ⟨sampleNamed "*._TCP.Geo-1.Example.", .complete⟩ with
    | .ok _ => true
    | .error _ => false) = true := by decide +kernel
  cases h : load ⟨0, 0⟩ ⟨sampleNamed "*._TCP.Geo-1.Example.", .complete⟩ with
  | error e => rw [h] at hok; cases hok
  | ok c => exact ⟨c, rfl⟩

/-- A wildcard with labels of all kinds, in two letter cases. -/
theorem load_of_plainName_wildcard :
    ∃ c, load ⟨0, 0⟩ ⟨sampleNamed "*._TCP.Geo-1.Example.", .complete⟩ = .ok c ∧
      c.name.toString = "*._tcp.geo-1.example." ∧
      (∀ metric a, ∀ r ∈ Service.toDns ⟨metric, c⟩ a, r.name.toString = "*._tcp.geo-1.example.") ∧
      c.name.qualified = true ∧
      load ⟨7, 0⟩ ⟨sampleNamed "*._tcp.GEO-1.eXample.", .complete⟩ =
        load ⟨7, 0⟩ ⟨sampleNamed "*._TCP.Geo-1.Example.", .complete⟩ := by
  obtain ⟨c, hc⟩ := wildcard_loads
  have hname : namePlace.Names "*._TCP.Geo-1.Example." (sampleNamed "*._TCP.Geo-1.Example.") :=
    names_sampleNamed (by decide +kernel)
  have hname' : namePlace.Names "*._tcp.GEO-1.eXample." (sampleNamed "*._tcp.GEO-1.eXample.") :=
    names_sampleNamed (by decide +kernel)
  have hlower : "*._TCP.Geo-1.Example.".toLower = "*._tcp.geo-1.example." := by decide +kernel
  have hlower' : "*._tcp.GEO-1.eXample.".toLower = "*._tcp.geo-1.example." := by decide +kernel
  have hlast : "*._TCP.Geo-1.Example.".toList.getLast? = some '.' := by decide +kernel
  obtain ⟨hshown, hrecords, hqualified, -, hsame⟩ :=
    (load_of_plainName hc).2 _ _ hname plain_wildcard
  rw [hlower] at hshown hrecords
  have hload := ((hsame _ _ (Or.inl (hlower'.trans hlower.symm))).2 hname').1 ⟨7, 0⟩
  exact ⟨c, hc, hshown, hrecords, hqualified.2 hlast, hload⟩

end NearestHost.Configuration
