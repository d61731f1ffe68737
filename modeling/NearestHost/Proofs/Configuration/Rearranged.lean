/-
  Texts of one configuration.

  * `Change`: the members of the top object or of a host in another order, one more
    member that is not read, or the array of the four fields in place of the object.
  * `exchange_member`: the order of members does not matter.
  * `draft_of_change`: no change changes what is read.
  * `load_rearranged`: texts that differ in such changes and in white space load as
    the same configuration.
-/
import NearestHost.Proofs.Configuration.Document
import NearestHost.Proofs.Configuration.Loading
import NearestHost.Proofs.Host.Rearranged
import NearestHost.Proofs.Json.Grammar
import Mathlib.Logic.Relation

namespace NearestHost.Configuration

open Json (Numeral Quoted Tree Written Exchange)

/-- Members give a value by its name. -/
def Gives (ms : List (Quoted × Tree)) (key : String) (v : Tree) : Prop :=
  ∃ k, (k, v) ∈ ms ∧ k.text? = some key

/-- A change of a text, white space aside.  `ok` says which numbers a new member of a host may
    hold. -/
inductive Change (ok : Numeral → Bool) : Tree → Tree → Prop
  | permuted {ms ms' : List (Quoted × Tree)} (order : ms.Perm ms') :
      Change ok (.object ms) (.object ms')
  | inserted {before after : List (Quoted × Tree)} {k : Quoted} {v : Tree} {key : String}
      (name : k.text? = some key) (unknown : Field.ofKey? key = none) :
      Change ok (.object (before ++ after)) (.object (before ++ (k, v) :: after))
  | host {before after : List (Quoted × Tree)} {k : Quoted} {front back : List Tree} {h h' : Tree}
      (name : k.text? = some "hosts") (change : Host.Change ok h h') :
      Change ok (.object (before ++ (k, .array (front ++ h :: back)) :: after))
        (.object (before ++ (k, .array (front ++ h' :: back)) :: after))
  | hostOfArray {n r g : Tree} {front back : List Tree} {h h' : Tree}
      (change : Host.Change ok h h') :
      Change ok (.array [n, r, g, .array (front ++ h :: back)])
        (.array [n, r, g, .array (front ++ h' :: back)])
  | listed {ms : List (Quoted × Tree)} {n r g hs : Tree} (name : Gives ms "name" n)
      (ttl : Gives ms "record_ttl" r) (time : Gives ms "generated_at" g)
      (hosts : Gives ms "hosts" hs) : Change ok (.object ms) (.array [n, r, g, hs])

/-- A value gives the time of the configuration. -/
def GivesTime : Tree → Prop
  | .object ms => ∃ v, Gives ms "generated_at" v
  | .array ts => 2 < ts.length
  | .scalar _ => False

/-! ## Fields -/

variable {d e : Draft} {f : Field} {g g' : Given} {t t' : Tree}

theorem readScalar_field {ev : Json.Event} (h : f.readScalar ev = .ok g) : g.field = f := by
  unfold Field.readScalar at h
  split at h
  · obtain ⟨n, -, rfl⟩ := Json.map_eq_ok.1 h; rfl
  · cases h; rfl
  · obtain ⟨t, -, rfl⟩ := Json.map_eq_ok.1 h; rfl
  · cases h

theorem read_field (h : f.read t = .ok g) : g.field = f := by
  unfold Field.read at h
  split at h
  · obtain ⟨ev, -, hev⟩ := Json.bind_eq_ok.1 h
    exact readScalar_field hev
  · obtain ⟨hs, -, hg⟩ := Json.bind_eq_ok.1 h
    cases hg; rfl
  · cases h

/-- A quoted text is read as what it says, with its escapes resolved. -/
theorem read_quoted {q : Json.Quoted} {x : String} (h : q.text? = some x) :
    f.read (.scalar (.text q)) = f.readScalar (.text x) := by
  have hevent : (Json.Scalar.text q).event? = some (.text x) :=
    congrArg (Option.map Json.Event.text) h
  rw [Field.read, hevent]
  rfl

theorem has_give : (d.give g).has f = true ↔ d.has f = true ∨ g.field = f := by
  cases g <;> cases f <;> simp [Draft.give, Draft.has, Given.field]

/-- Of what is given to one field the last stays. -/
theorem give_give (h : g.field = g'.field) (d : Draft) :
    (d.give g).give g' = d.give g' := by
  cases g <;> cases g' <;> first | rfl | cases h

/-- What is given to two fields may be given in either order. -/
theorem give_comm (h : g.field ≠ g'.field) (d : Draft) :
    (d.give g).give g' = (d.give g').give g := by
  cases g <;> cases g' <;> first | rfl | exact absurd rfl h

/-! ## Members -/

theorem member_ok {m : Quoted × Tree} : d.member m = .ok e ↔ ∃ k, m.1.text? = some k ∧
    (Field.ofKey? k = none ∧ d = e ∨ ∃ f g, Field.ofKey? k = some f ∧ d.has f = false ∧
      f.read m.2 = .ok g ∧ d.give g = e) := by
  unfold Draft.member
  constructor
  · intro h
    obtain ⟨k, hk, h⟩ := Json.bind_eq_ok.1 h
    refine ⟨k, Json.orGrammar_eq_ok.1 hk, ?_⟩
    split at h
    · rename_i hf
      exact Or.inl ⟨hf, Except.ok.inj h⟩
    · rename_i f hf
      split at h
      · cases h
      · rename_i hhas
        obtain ⟨g, hg, h⟩ := Json.bind_eq_ok.1 h
        exact Or.inr ⟨f, g, hf, Bool.eq_false_iff.2 hhas, hg, Except.ok.inj h⟩
  · rintro ⟨k, hk, ⟨hf, rfl⟩ | ⟨f, g, hf, hhas, hread, rfl⟩⟩
    · refine Json.bind_eq_ok.2 ⟨k, Json.orGrammar_eq_ok.2 hk, ?_⟩
      rw [hf]
      rfl
    · refine Json.bind_eq_ok.2 ⟨k, Json.orGrammar_eq_ok.2 hk, ?_⟩
      simp only [hf, hhas, hread]
      rfl

theorem member_of_known {m : Quoted × Tree} {key : String} (hk : m.1.text? = some key)
    (hkey : Field.ofKey? key = some f) :
    d.member m = if d.has f then .error .data else (f.read m.2).map d.give := by
  simp only [Draft.member, hk, Json.Reader.orGrammar, Json.ok_bind, hkey]
  cases f.read m.2 <;> rfl

theorem member_ok_of_known {m : Quoted × Tree} {key : String} (hk : m.1.text? = some key)
    (hkey : Field.ofKey? key = some f) :
    d.member m = .ok e ↔ d.has f = false ∧ ∃ g, f.read m.2 = .ok g ∧ d.give g = e := by
  rw [member_of_known hk hkey]
  cases d.has f <;> simp [Json.map_eq_ok]

/-- **The order of members does not matter.** -/
theorem exchange_member : Exchange Draft.member Eq where
  refl _ := rfl
  trans := .trans
  related := by
    rintro d _ e m rfl h
    exact ⟨e, h, rfl⟩
  swap := by
    intro d e i m m' h h'
    obtain ⟨k, hk, ⟨hf, rfl⟩ | ⟨f, g, hf, hhas, hread, rfl⟩⟩ := member_ok.1 h
    · exact ⟨i, i, h', member_ok.2 ⟨k, hk, Or.inl ⟨hf, rfl⟩⟩, rfl⟩
    -- Where both are given to a field, it is not the same one, which would be there already.
    · obtain ⟨k', hk', ⟨hf', rfl⟩ | ⟨f', g', hf', hhas', hread', rfl⟩⟩ := member_ok.1 h'
      · exact ⟨d, d.give g, member_ok.2 ⟨k', hk', Or.inl ⟨hf', rfl⟩⟩, h, rfl⟩
      · have hg := read_field hread
        have hg' := read_field hread'
        obtain ⟨hd, hne⟩ := not_or.1 (mt has_give.2 (Bool.eq_false_iff.1 hhas'))
        have hback : (d.give g').has f = false := by
          refine Bool.eq_false_iff.2 fun hback => ?_
          rcases has_give.1 hback with hd | heq
          · exact Bool.eq_false_iff.1 hhas hd
          · exact hne (hg.trans (heq.symm.trans hg'))
        exact ⟨d.give g', (d.give g').give g,
          member_ok.2 ⟨k', hk', Or.inr ⟨f', g', hf', Bool.eq_false_iff.2 hd, hread', rfl⟩⟩,
          member_ok.2 ⟨k, hk, Or.inr ⟨f, g, hf, hback, hread, rfl⟩⟩,
          give_comm (fun heq => hne (heq.trans hg')) d⟩

theorem member_unknown {k : Quoted} {key : String} (hk : k.text? = some key)
    (hkey : Field.ofKey? key = none) (v : Tree) (d : Draft) :
    ∃ d', d.member (k, v) = .ok d' ∧ d = d' :=
  ⟨d, member_ok.2 ⟨key, hk, Or.inl ⟨hkey, rfl⟩⟩, rfl⟩

theorem has_of_give (h : d.give g = d) : d.has g.field = true := h ▸ has_give.2 (Or.inr rfl)

/-- No later member is given to a field that has been given, so it does not matter what this
    was. -/
theorem member_give {m : Quoted × Tree} (hd : d.has g.field = true) (h : d.member m = .ok e) :
    (d.give g).member m = .ok (e.give g) ∧ e.has g.field = true := by
  obtain ⟨k, hk, ⟨hf, rfl⟩ | ⟨f, g', hf, hhas, hread, rfl⟩⟩ := member_ok.1 h
  · exact ⟨member_ok.2 ⟨k, hk, Or.inl ⟨hf, rfl⟩⟩, hd⟩
  · have hne : g.field ≠ f := by
      rintro rfl
      exact Bool.false_ne_true (hhas.symm.trans hd)
    have hhas' : (d.give g).has f = false :=
      Bool.eq_false_iff.2 fun hgive =>
        (has_give.1 hgive).elim (Bool.eq_false_iff.1 hhas) hne
    refine ⟨member_ok.2 ⟨k, hk, Or.inr ⟨f, g', hf, hhas', hread, ?_⟩⟩, has_give.2 (Or.inl hd)⟩
    exact give_comm (read_field hread ▸ hne) d

theorem members_give {ms : List (Quoted × Tree)} (hd : d.has g.field = true)
    (h : ms.foldlM Draft.member d = .ok e) :
    ms.foldlM Draft.member (d.give g) = .ok (e.give g) := by
  induction ms generalizing d with
  | nil => cases h; rfl
  | cons m ms ih =>
    obtain ⟨i, hi, h⟩ := Json.foldlM_cons_ok.1 h
    obtain ⟨hgive, hhas⟩ := member_give hd hi
    exact Json.foldlM_cons_ok.2 ⟨i.give g, hgive, ih hhas h⟩

/-- What members give to a field is there in the end. -/
theorem give_of_gives {ms : List (Quoted × Tree)} (h : ms.foldlM Draft.member d = .ok e)
    {v : Tree} {key : String} (hv : Gives ms key v) (hkey : Field.ofKey? key = some f) :
    ∃ g, f.read v = .ok g ∧ e.give g = e := by
  obtain ⟨k, hmem, hk⟩ := hv
  obtain ⟨before, after, rfl⟩ := List.append_of_mem hmem
  obtain ⟨i, -, h⟩ := Json.foldlM_append_ok.1 h
  obtain ⟨j, hj, h⟩ := Json.foldlM_cons_ok.1 h
  obtain ⟨-, g, hread, rfl⟩ := (member_ok_of_known hk hkey).1 hj
  have hlate := members_give (has_give.2 (Or.inr rfl)) h
  rw [give_give rfl, h] at hlate
  exact ⟨g, hread, (Except.ok.inj hlate).symm⟩

/-! ## Changes -/

theorem read_hosts {front back : List Tree} {h h' : Tree}
    (hh : ∀ x, Host.hostOf 2 h = .ok x → Host.hostOf 2 h' = .ok x)
    (hread : Field.hosts.read (.array (front ++ h :: back)) = .ok g) :
    Field.hosts.read (.array (front ++ h' :: back)) = .ok g := by
  obtain ⟨hs, hhs, hg⟩ := Json.bind_eq_ok.1 hread
  refine Json.bind_eq_ok.2 ⟨hs, ?_, hg⟩
  rw [List.mapM_append] at hhs ⊢
  obtain ⟨xs, hxs, hrest⟩ := Json.bind_eq_ok.1 hhs
  obtain ⟨ys, hys, hall⟩ := Json.bind_eq_ok.1 hrest
  refine Json.bind_eq_ok.2 ⟨xs, hxs, Json.bind_eq_ok.2 ⟨ys, ?_, hall⟩⟩
  rw [List.mapM_cons] at hys ⊢
  obtain ⟨x, hx, hys⟩ := Json.bind_eq_ok.1 hys
  exact Json.bind_eq_ok.2 ⟨x, hh x hx, hys⟩

theorem elements_four {n r t hs : Tree} :
    Draft.empty.elements 0 [n, r, t, hs] = .ok d ↔ ∃ gn gr gt gh, Field.name.read n = .ok gn ∧
      Field.ttl.read r = .ok gr ∧ Field.generatedAt.read t = .ok gt ∧
        Field.hosts.read hs = .ok gh ∧ (((Draft.empty.give gn).give gr).give gt).give gh = d := by
  constructor
  · intro h
    obtain ⟨gn, hn, h⟩ := Json.bind_eq_ok.1 h
    obtain ⟨gr, hr, h⟩ := Json.bind_eq_ok.1 h
    obtain ⟨gt, ht, h⟩ := Json.bind_eq_ok.1 h
    obtain ⟨gh, hh, h⟩ := Json.bind_eq_ok.1 h
    exact ⟨gn, gr, gt, gh, hn, hr, ht, hh, Except.ok.inj h⟩
  · rintro ⟨gn, gr, gt, gh, hn, hr, ht, hh, rfl⟩
    exact Json.bind_eq_ok.2 ⟨gn, hn, Json.bind_eq_ok.2 ⟨gr, hr, Json.bind_eq_ok.2 ⟨gt, ht,
      Json.bind_eq_ok.2 ⟨gh, hh, rfl⟩⟩⟩⟩

/-- What is given to all four fields leaves nothing of a draft. -/
theorem give_four {gn gr gt gh : Given} (hn : gn.field = .name) (hr : gr.field = .ttl)
    (ht : gt.field = .generatedAt) (hh : gh.field = .hosts) (d e : Draft) :
    (((d.give gn).give gr).give gt).give gh = (((e.give gn).give gr).give gt).give gh := by
  cases gn <;> cases hn
  cases gr <;> cases hr
  cases gt <;> cases ht
  cases gh <;> cases hh
  rfl

/-- **No change changes what is read.** -/
theorem draft_of_change (hc : Change Numeral.reads t t') (h : draftOf t = .ok d) :
    draftOf t' = .ok d := by
  have hmembers {ms : List (Quoted × Tree)} {d : Draft}
      (h : ∃ d', ms.foldlM Draft.member .empty = .ok d' ∧ d = d') :
      draftOf (.object ms) = .ok d := by
    obtain ⟨d', hd', rfl⟩ := h
    exact hd'
  cases hc with
  | permuted order => exact hmembers (Json.foldlM_perm exchange_member order h)
  | inserted name unknown =>
    exact hmembers (Json.foldlM_insert exchange_member (member_unknown name unknown _) h)
  | host name change =>
    refine Json.foldlM_replace (fun d i hi => ?_) h
    obtain ⟨hhas, g, hread, hi⟩ := (member_ok_of_known name rfl).1 hi
    exact (member_ok_of_known name rfl).2
      ⟨hhas, g, read_hosts (fun x => Host.hostOf_change change) hread, hi⟩
  | hostOfArray change =>
    obtain ⟨gn, gr, gt, gh, hn, hr, ht, hh, hd⟩ := elements_four.1 h
    exact elements_four.2 ⟨gn, gr, gt, gh, hn, hr, ht,
      read_hosts (fun x => Host.hostOf_change change) hh, hd⟩
  | listed name ttl time hosts =>
    -- Given once more, the four fields leave the draft as it is; and they are all that it has.
    obtain ⟨gn, hn, hdn⟩ := give_of_gives h name (f := .name) rfl
    obtain ⟨gr, hr, hdr⟩ := give_of_gives h ttl (f := .ttl) rfl
    obtain ⟨gt, ht, hdt⟩ := give_of_gives h time (f := .generatedAt) rfl
    obtain ⟨gh, hh, hdh⟩ := give_of_gives h hosts (f := .hosts) rfl
    refine elements_four.2 ⟨gn, gr, gt, gh, hn, hr, ht, hh, ?_⟩
    rw [give_four (read_field hn) (read_field hr) (read_field ht) (read_field hh) .empty d, hdn,
      hdr, hdt, hdh]

theorem draft_of_changes (hc : Relation.ReflTransGen (Change Numeral.reads) t t')
    (h : draftOf t = .ok d) : draftOf t' = .ok d := by
  induction hc with
  | refl => exact h
  | tail _ change ih => exact draft_of_change change ih

/-! ## The time -/

theorem has_elements {ts : List Tree} {i : Nat} (hd : d.has f = true)
    (h : d.elements i ts = .ok e) : e.has f = true := by
  induction ts generalizing d i with
  | nil => cases h; exact hd
  | cons t ts ih =>
    rw [Draft.elements] at h
    split at h
    · cases h
    · obtain ⟨g, -, h⟩ := Json.bind_eq_ok.1 h
      exact ih (has_give.2 (Or.inl hd)) h

theorem has_generatedAt (ht : GivesTime t) (h : draftOf t = .ok d) :
    d.has .generatedAt = true := by
  match t with
  | .object ms =>
    obtain ⟨v, hv⟩ := ht
    obtain ⟨g, hread, hd⟩ := give_of_gives h hv (f := .generatedAt) rfl
    exact read_field hread ▸ has_of_give hd
  | .array (a :: b :: c :: ts) =>
    obtain ⟨ga, -, h⟩ := Json.bind_eq_ok.1 h
    obtain ⟨gb, -, h⟩ := Json.bind_eq_ok.1 h
    obtain ⟨gc, hread, h⟩ := Json.bind_eq_ok.1 h
    exact has_elements (has_give.2 (Or.inr (read_field hread))) h

/-- A configuration whose text gives the time does not depend on the time of its reading. -/
theorem configuration_now (hd : d.has .generatedAt = true) (now now' : Instant) :
    d.configuration? now = d.configuration? now' := by
  obtain ⟨time, htime⟩ := Option.isSome_iff_exists.1 hd
  simp only [Draft.configuration?, htime, Option.getD_some]

/-! ## Loading -/

theorem decode_rearranged {now now' : Instant} {bs bs' : List UInt8} {c : Configuration}
    (hbs : Written t.lexemes bs) (ht : GivesTime t)
    (hc : Relation.ReflTransGen (Change Numeral.reads) t t') (hbs' : Written t'.lexemes bs')
    (h : decode now ⟨bs, .complete⟩ = .ok c) : decode now' ⟨bs', .complete⟩ = .ok c := by
  rw [decode_tree hbs] at h
  obtain ⟨d, hd, hconfiguration⟩ := Json.bind_eq_ok.1 (Json.categorized_eq_ok.1 h)
  rw [decode_tree hbs', Json.categorized_eq_ok]
  refine Json.bind_eq_ok.2 ⟨d, draft_of_changes hc hd, ?_⟩
  rw [configuration_now (has_generatedAt ht hd) now' now]
  exact hconfiguration

/-- **The layout of a text does not matter.**  A text that loads is JSON, and where it gives the
    time, every text of its changes loads as the same configuration, whatever white space stands
    between the tokens. -/
theorem load_rearranged {now : Instant} {bs : List UInt8} {c : Configuration}
    (h : load now ⟨bs, .complete⟩ = .ok c) :
    (∃ t : Tree, Written t.lexemes bs) ∧
      ∀ t : Tree, Written t.lexemes bs → GivesTime t →
        ∀ (t' : Tree) (bs' : List UInt8) (now' : Instant),
          Relation.ReflTransGen (Change Numeral.reads) t t' → Written t'.lexemes bs' →
            load now' ⟨bs', .complete⟩ = .ok c := by
  obtain ⟨hdecode, hall⟩ := load_eq_ok.1 h
  constructor
  · unfold decode at hdecode
    obtain ⟨p, hp, -⟩ := Json.bind_eq_ok.1 hdecode
    exact Json.written_of_read hp
  · intro t ht htime t' bs' now' hc hbs'
    exact load_eq_ok.2 ⟨decode_rearranged ht htime hc hbs' hdecode, hall⟩

/-! ## A text in two layouts -/

/-- The text of ASCII characters that stand for themselves. -/
def plain (s : String) : Quoted :=
  (s.toList.map Json.byteOf).filterMap fun c =>
    if h : c ≠ Json.byteOf '"' ∧ c ≠ Json.byteOf '\\' ∧ ¬ c < 0x20 then some (.byte c h) else none

/-- The number 1797693134862315708e290, which is below the greatest double; but the double of its
    digits times that of the power of ten is infinite. -/
def nearlyInfinite : Numeral where
  negative := false
  whole := ['1', '7', '9', '7', '6', '9', '3', '1', '3', '4', '8', '6', '2', '3', '1', '5', '7',
    '0', '8'].map Json.byteOf
  fraction := []
  exponent := some ⟨Json.byteOf 'e', none, ['2', '9', '0'].map Json.byteOf, by decide, nofun,
    List.cons_ne_nil _ _, by decide +kernel⟩
  whole_ok := Or.inr ⟨_, _, rfl, by decide +kernel, by decide +kernel⟩
  fraction_ok := nofun

def zero : Numeral := ⟨false, [Json.byteOf '0'], [], none, Or.inl rfl, nofun⟩

def textTree (s : String) : Tree := .scalar (.text (plain s))

def sampleHost (more : List (Quoted × Tree)) : Tree :=
  .object ([(plain "name", textTree "h"), (plain "latitude", .scalar (.number zero)),
    (plain "longitude", .scalar (.number zero)), (plain "ip", textTree "1.2.3.4")] ++ more)

def sampleHead : List (Quoted × Tree) :=
  [(plain "name", textTree "a"), (plain "generated_at", textTree "1970-01-01T00:00:00Z")]

def sampleMembers (more : List (Quoted × Tree)) : List (Quoted × Tree) :=
  sampleHead ++ [(plain "hosts", .array [sampleHost more])]

/-- Lexemes with white space in front of each. -/
def spaced (ws : List UInt8) (ls : List Json.Lexeme) : List UInt8 :=
  ls.flatMap fun l => ws ++ l.bytes

theorem written_spaced {ws : List UInt8} (h : Json.Blank ws) (ls : List Json.Lexeme) :
    Written ls (spaced ws ls) := by
  induction ls with
  | nil => exact .nil nofun
  | cons l ls ih =>
    have hcons : spaced ws (l :: ls) = ws ++ (l.bytes ++ spaced ws ls) := by simp [spaced]
    rw [hcons]
    exact .cons h ih

def sample (more : List (Quoted × Tree)) : List UInt8 :=
  spaced [] (Tree.object (sampleMembers more)).lexemes

theorem sample_loads : ∃ c, load ⟨0, 0⟩ ⟨sample [], .complete⟩ = .ok c := by
  have hok : (match load ⟨0, 0⟩ ⟨sample [], .complete⟩ with
    | .ok _ => true
    | .error _ => false) = true := by decide +kernel
  cases h : load ⟨0, 0⟩ ⟨sample [], .complete⟩ with
  | error e => rw [h] at hok; cases hok
  | ok c => exact ⟨c, rfl⟩

theorem host_more {ok : Numeral → Bool} {k : Quoted} {v : Tree} {key : String}
    (name : k.text? = some key) (foreign : Host.Foreign key) (readable : v.readable ok = true)
    (shallow : 3 + v.height ≤ Json.maxDepth) :
    Change ok (.object (sampleMembers [])) (.object (sampleMembers [(k, v)])) := by
  have hhosts : (plain "hosts").text? = some "hosts" := by decide +kernel
  have hhost : Host.Change ok (sampleHost []) (sampleHost [(k, v)]) := by
    unfold sampleHost
    exact .inserted name foreign readable shallow
  have hone (h h' : Tree) (hc : Host.Change ok h h') :
      Change ok (.object (sampleHead ++ (plain "hosts", .array ([] ++ h :: [])) :: []))
        (.object (sampleHead ++ (plain "hosts", .array ([] ++ h' :: [])) :: [])) :=
    .host hhosts hc
  exact hone _ _ hhost

theorem givesTime_sample : GivesTime (.object (sampleMembers [])) :=
  ⟨_, plain "generated_at", List.mem_cons_of_mem _ List.mem_cons_self, by decide +kernel⟩

theorem written_sample (more : List (Quoted × Tree)) :
    Written (Tree.object (sampleMembers more)).lexemes (sample more) :=
  written_spaced (List.forall_mem_nil _) _

/-- The members of the sample in reverse, with one more in the host, and a number of any size on
    top. -/
def reversed : Tree :=
  .object ((plain "y", .scalar (.number nearlyInfinite)) ::
    sampleMembers [(plain "x", .array [.scalar (.word .null)])]).reverse

/-- With blanks everywhere and at another time it loads as the same configuration. -/
theorem load_rearranged_reversed : ∃ c, load ⟨0, 0⟩ ⟨sample [], .complete⟩ = .ok c ∧
    Written (Tree.object (sampleMembers [])).lexemes (sample []) ∧
    GivesTime (.object (sampleMembers [])) ∧
    Relation.ReflTransGen (Change Numeral.reads) (.object (sampleMembers [])) reversed ∧
    Written reversed.lexemes (spaced [Json.byteOf ' '] reversed.lexemes) ∧
    load ⟨7, 0⟩ ⟨spaced [Json.byteOf ' '] reversed.lexemes, .complete⟩ = .ok c := by
  obtain ⟨c, hc⟩ := sample_loads
  have hx : (plain "x").text? = some "x" := by decide +kernel
  have hy : (plain "y").text? = some "y" := by decide +kernel
  have hhost : Change Numeral.reads (.object (sampleMembers []))
      (.object (sampleMembers [(plain "x", .array [.scalar (.word .null)])])) :=
    host_more hx (by unfold Host.Foreign; decide) rfl (by decide)
  have htop (ms : List (Quoted × Tree)) : Change Numeral.reads (.object ([] ++ ms))
      (.object ([] ++ (plain "y", .scalar (.number nearlyInfinite)) :: ms)) :=
    .inserted hy (by decide)
  have hchanges : Relation.ReflTransGen (Change Numeral.reads) (.object (sampleMembers [])) reversed :=
    .tail (.tail (.single hhost) (htop _)) (.permuted (List.reverse_perm _).symm)
  have hspaced : Written reversed.lexemes (spaced [Json.byteOf ' '] reversed.lexemes) := by
    refine written_spaced (fun c hc => ?_) _
    rw [List.mem_singleton.1 hc]
    rfl
  exact ⟨c, hc, written_sample [], givesTime_sample, hchanges, hspaced,
    (load_rearranged hc).2 _ (written_sample []) givesTime_sample _ _ _ hchanges hspaced⟩

/-- **A number in the range of the doubles may be refused** in a host, so the numbers of its
    members have to be those that are read as doubles. -/
theorem not_load_rearranged_inRange :
    ¬ ∀ (now : Instant) (bs : List UInt8) (c : Configuration),
      load now ⟨bs, .complete⟩ = .ok c → ∀ t : Tree, Written t.lexemes bs → GivesTime t →
        ∀ (t' : Tree) (bs' : List UInt8),
          Relation.ReflTransGen (Change Numeral.inRange) t t' → Written t'.lexemes bs' →
            load now ⟨bs', .complete⟩ = .ok c := by
  intro hall
  obtain ⟨c, hc⟩ := sample_loads
  have hx : (plain "x").text? = some "x" := by decide +kernel
  have hrange : (Tree.scalar (.number nearlyInfinite)).readable Numeral.inRange = true := by
    decide +kernel
  have hhost := host_more hx (by unfold Host.Foreign; decide) hrange (by decide)
  have hload := hall _ _ c hc _ (written_sample []) givesTime_sample _ _ (.single hhost)
    (written_sample _)
  have hrefused : (match load ⟨0, 0⟩ ⟨sample [(plain "x", .scalar (.number nearlyInfinite))],
      .complete⟩ with
    | .ok _ => true
    | .error _ => false) = false := by decide +kernel
  rw [hload] at hrefused
  cases hrefused

end NearestHost.Configuration
