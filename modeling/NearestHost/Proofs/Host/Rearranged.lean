/-
  Hosts whose members are rearranged.

  * `Change`: the members in another order, or one more member that a host does
    not read.
  * `Draft.Same`: drafts that give the same host.
  * `exchange_member`: the order of members does not matter, up to that.
  * `hostOf_change`: no change changes the host.
-/
import NearestHost.Proofs.Host.Document
import NearestHost.Proofs.Json.Members

namespace NearestHost.Host

open Json (Numeral Quoted Tree Exchange maxDepth)

/-- The name of a member that a host does not read. -/
def Foreign (key : String) : Prop :=
  key ≠ "name" ∧ key ≠ "ip" ∧ key ≠ "latitude" ∧ key ≠ "longitude"

/-- A change inside a host of a configuration, whose members stand below three open brackets.
    `ok` says which numbers a new member may hold. -/
inductive Change (ok : Numeral → Bool) : Tree → Tree → Prop
  | permuted {ms ms' : List (Quoted × Tree)} (order : ms.Perm ms') :
      Change ok (.object ms) (.object ms')
  | inserted {before after : List (Quoted × Tree)} {k : Quoted} {v : Tree} {key : String}
      (name : k.text? = some key) (foreign : Foreign key) (readable : v.readable ok = true)
      (shallow : 3 + v.height ≤ maxDepth) :
      Change ok (.object (before ++ after)) (.object (before ++ (k, v) :: after))

/-! ## Drafts of the same host -/

/-- The other members of a name. -/
def Draft.named (d : Draft) (key : String) : List (String × Option Float) :=
  d.others.filter (·.1 == key)

/-- Drafts that give the same host. -/
structure Draft.Same (d d' : Draft) : Prop where
  name : d.name = d'.name
  address : d.address = d'.address
  latitude : (d.named "latitude").Perm (d'.named "latitude")
  longitude : (d.named "longitude").Perm (d'.named "longitude")

theorem Draft.Same.refl (d : Draft) : d.Same d := ⟨rfl, rfl, .refl _, .refl _⟩

theorem Draft.Same.trans {d e i : Draft} (h : d.Same e) (h' : e.Same i) : d.Same i :=
  ⟨h.name.trans h'.name, h.address.trans h'.address, h.latitude.trans h'.latitude,
    h.longitude.trans h'.longitude⟩

variable {d d' e : Draft} {g g' : Given} {key : String} {depth : Nat}

theorem number_perm (h : (d.named key).Perm (d'.named key)) : d.number? key = d'.number? key := by
  unfold Draft.number?
  unfold Draft.named at h
  generalize d.others.filter (·.1 == key) = l at h ⊢
  generalize d'.others.filter (·.1 == key) = l' at h ⊢
  have hlen := h.length_eq
  rcases l with _ | ⟨p, _ | ⟨q, l⟩⟩
  · rw [List.nil_perm.1 h]
  · rw [List.singleton_perm.1 h]
  · rcases l' with _ | ⟨p', _ | ⟨q', l'⟩⟩
    · cases hlen
    · cases hlen
    · rfl

theorem host_same (h : d.Same d') : d.host? = d'.host? := by
  unfold Draft.host?
  rw [h.name, h.address, number_perm h.latitude, number_perm h.longitude]

theorem has_same (h : d.Same d') (f : Field) : d.has f = d'.has f := by
  cases f with
  | name => rw [Draft.has, h.name]; rfl
  | address => rw [Draft.has, h.address]; rfl
  | other k => rfl

theorem named_addOther (d : Draft) (k : String) (x : Option Float) (key : String) :
    (d.addOther k x).named key = d.named key ++ if k == key then [(k, x)] else [] := by
  unfold Draft.named Draft.addOther
  rw [List.filter_append]
  congr 1
  by_cases h : k == key <;> simp [h]

theorem give_same (h : d.Same d') (g : Given) : (d.give g).Same (d'.give g) := by
  cases g with
  | name s => exact ⟨rfl, h.address, h.latitude, h.longitude⟩
  | address a => exact ⟨h.name, rfl, h.latitude, h.longitude⟩
  | other k x =>
    refine ⟨h.name, h.address, ?_, ?_⟩
    · simpa only [Draft.give, named_addOther] using h.latitude.append_right _
    · simpa only [Draft.give, named_addOther] using h.longitude.append_right _

/-- What may be given twice, or is given to two members, may be given in either order. -/
theorem give_comm (h : g.field = g'.field → ∃ k, g.field = .other k) (d : Draft) :
    ((d.give g).give g').Same ((d.give g').give g) := by
  cases g with
  | name s =>
    cases g' with
    | name s' => obtain ⟨k, hk⟩ := h rfl; cases hk
    | address a | other k x => exact .refl _
  | address a =>
    cases g' with
    | address a' => obtain ⟨k, hk⟩ := h rfl; cases hk
    | name s | other k x => exact .refl _
  | other k x =>
    cases g' with
    | name s | address a => exact .refl _
    | other k' x' =>
      have hswap (key : String) : (((d.addOther k x).addOther k' x').named key).Perm
          (((d.addOther k' x').addOther k x).named key) := by
        simp only [named_addOther, List.append_assoc]
        exact (List.perm_append_comm).append_left _
      exact ⟨rfl, rfl, hswap _, hswap _⟩

/-! ## Members -/

theorem readScalar_field {f : Field} {ev : Json.Event} (h : f.readScalar ev = .ok g) :
    g.field = f := by
  unfold Field.readScalar at h
  split at h
  · cases h; rfl
  · obtain ⟨a, -, rfl⟩ := Json.map_eq_ok.1 h; rfl
  · cases h; rfl
  · cases h

theorem read_field {f : Field} {t : Tree} (h : f.read depth t = .ok g) : g.field = f := by
  unfold Field.read at h
  split at h
  · obtain ⟨ev, -, hev⟩ := Json.bind_eq_ok.1 h
    exact readScalar_field hev
  · split at h
    · cases h; rfl
    · cases h
  · cases h

/-- A member that may only be there once is there once it has been given. -/
theorem has_give {f : Field} :
    (d.give g).has f = false ↔ d.has f = false ∧ (g.field = f → ∃ k, f = .other k) := by
  cases g <;> cases f <;> simp [Draft.give, Draft.has, Draft.addOther, Given.field]

theorem member_ok {m : Quoted × Tree} : d.member depth m = .ok e ↔
    ∃ k g, m.1.text? = some k ∧ d.has (Field.ofKey k) = false ∧
      (Field.ofKey k).read depth m.2 = .ok g ∧ d.give g = e := by
  unfold Draft.member
  constructor
  · intro h
    obtain ⟨k, hk, h⟩ := Json.bind_eq_ok.1 h
    dsimp only at h
    split at h
    · cases h
    · rename_i hhas
      obtain ⟨g, hg, h⟩ := Json.bind_eq_ok.1 h
      exact ⟨k, g, Json.orGrammar_eq_ok.1 hk, Bool.eq_false_iff.2 hhas, hg, Except.ok.inj h⟩
  · rintro ⟨k, g, hk, hhas, hread, rfl⟩
    refine Json.bind_eq_ok.2 ⟨k, Json.orGrammar_eq_ok.2 hk, ?_⟩
    rw [if_neg (Bool.eq_false_iff.1 hhas), hread]
    rfl

/-- **The order of members does not matter.** -/
theorem exchange_member (depth : Nat) : Exchange (Draft.member depth) Draft.Same where
  refl := .refl
  trans := .trans
  related := by
    intro d d' e m hd h
    obtain ⟨k, g, hk, hhas, hread, rfl⟩ := member_ok.1 h
    exact ⟨d'.give g, member_ok.2 ⟨k, g, hk, has_same hd _ ▸ hhas, hread, rfl⟩, give_same hd g⟩
  swap := by
    intro d e i m m' h h'
    obtain ⟨k, g, hk, hhas, hread, rfl⟩ := member_ok.1 h
    obtain ⟨k', g', hk', hhas', hread', rfl⟩ := member_ok.1 h'
    obtain ⟨hhas', hne⟩ := has_give.1 hhas'
    have hf := read_field hread
    have hf' := read_field hread'
    -- Two members of one field only stand in a row where the field may be given twice.
    have hcomm : g.field = g'.field → ∃ k, g.field = .other k := by
      intro heq
      obtain ⟨x, hx⟩ := hne (heq.trans hf')
      exact ⟨x, heq.trans (hf'.trans hx)⟩
    have hback : (d.give g').has (Field.ofKey k) = false := by
      refine has_give.2 ⟨hhas, fun heq => ?_⟩
      obtain ⟨x, hx⟩ := hcomm (hf.trans heq.symm)
      exact ⟨x, hf.symm.trans hx⟩
    exact ⟨d.give g', (d.give g').give g, member_ok.2 ⟨k', g', hk', hhas', hread', rfl⟩,
      member_ok.2 ⟨k, g, hk, hback, hread, rfl⟩, give_comm hcomm d⟩

theorem read_other (key : String) {v : Tree} (hv : v.fits depth = true) :
    ∃ x, (Field.other key).read depth v = .ok (.other key x) := by
  cases v with
  | scalar c =>
    have hc : c.event?.isSome = true := by
      rw [← Json.Scalar.readable_reads]
      exact (Bool.and_eq_true_iff.1 hv).1
    obtain ⟨ev, hev⟩ := Option.isSome_iff_exists.1 hc
    exact ⟨numberOf ev, by rw [Field.read, hev]; rfl⟩
  | array ts => exact ⟨none, if_pos hv⟩
  | object ms => exact ⟨none, if_pos hv⟩

/-- A member that a host does not read does not matter. -/
theorem member_foreign {k : Quoted} {v : Tree} (hk : k.text? = some key) (hkey : Foreign key)
    (hv : v.fits depth = true) (d : Draft) :
    ∃ d', d.member depth (k, v) = .ok d' ∧ d.Same d' := by
  obtain ⟨hname, haddress, hlatitude, hlongitude⟩ := hkey
  have hfield : Field.ofKey key = .other key := by simp [Field.ofKey, hname, haddress]
  obtain ⟨x, hx⟩ := read_other key hv
  refine ⟨d.addOther key x, member_ok.2 ⟨key, .other key x, hk, ?_, ?_, rfl⟩, rfl, rfl, ?_, ?_⟩
  · rw [hfield]; rfl
  · rw [hfield]; exact hx
  · simp [named_addOther, hlatitude]
  · simp [named_addOther, hlongitude]

/-- **A change inside a host** gives the same host. -/
theorem hostOf_change {t t' : Tree} {h : Host} (hc : Change Numeral.reads t t')
    (ht : hostOf 2 t = .ok h) : hostOf 2 t' = .ok h := by
  have hfold {ms ms' : List (Quoted × Tree)}
      (hms : ∀ d, ms.foldlM (Draft.member 3) .empty = .ok d →
        ∃ d', ms'.foldlM (Draft.member 3) .empty = .ok d' ∧ d.Same d')
      (ht : hostOf 2 (.object ms) = .ok h) : hostOf 2 (.object ms') = .ok h := by
    obtain ⟨d, hd, hhost⟩ := Json.bind_eq_ok.1 ht
    obtain ⟨d', hd', hsame⟩ := hms d hd
    refine Json.bind_eq_ok.2 ⟨d', hd', ?_⟩
    rw [← host_same hsame]
    exact hhost
  cases hc with
  | permuted order => exact hfold (fun d => Json.foldlM_perm (exchange_member 3) order) ht
  | inserted name foreign readable shallow =>
    have hfits := Bool.and_eq_true_iff.2 ⟨readable, decide_eq_true shallow⟩
    exact hfold (fun d => Json.foldlM_insert (exchange_member 3)
      (member_foreign name foreign hfits)) ht

end NearestHost.Host
