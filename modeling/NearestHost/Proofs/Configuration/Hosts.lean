/-
  The hosts of a configuration, written and read again.

  * `load_of_hosts`: a text with other hosts in place of its own.
  * `load_names_and_addresses`: every host in range is read from its text, and the
    hosts of every list are loaded from theirs, with their names and addresses.
-/
import NearestHost.Proofs.Configuration.Place
import NearestHost.Proofs.Host.Written

namespace NearestHost.Configuration

open Json (Layout Tree Written)

variable {now : Instant} {bs bs' : List UInt8} {c : Configuration} {place : Place .hosts}
  {v : Tree} {ts : List Tree} {hs : List Host}

theorem hosts_give (now : Instant) (d : Draft) (hs : List Host) :
    (d.give (.hosts hs)).configuration? now =
      (d.configuration? now).map fun c => { c with hosts := hs } := by
  obtain ⟨name, _, _, _⟩ := d
  cases name <;> rfl

/-- What a loaded text was collected in. -/
theorem draft_of_load {t : Tree} (hbs : Written t.lexemes bs)
    (hc : load now ⟨bs, .complete⟩ = .ok c) :
    ∃ d, draftOf t = .ok d ∧ d.configuration? now = some c := by
  have hdecode := (load_eq_ok.1 hc).1
  rw [decode_tree hbs] at hdecode
  obtain ⟨d, hd, hwhole⟩ := Json.bind_eq_ok.1 (Json.categorized_eq_ok.1 hdecode)
  exact ⟨d, hd, Json.orData_eq_ok.1 hwhole⟩

/-- A text with other hosts in place of its own, all in range, is loaded with them. -/
theorem load_of_hosts (hbs : Written (place.fill v).lexemes bs)
    (hc : load now ⟨bs, .complete⟩ = .ok c) (hts : ts.mapM (Host.hostOf 2) = .ok hs)
    (hrange : ∀ h ∈ hs, h.location.InRange)
    (hbs' : Written (place.fill (.array ts)).lexemes bs') :
    load now ⟨bs', .complete⟩ = .ok { c with hosts := hs } := by
  obtain ⟨d, hd, hwhole⟩ := draft_of_load hbs hc
  have hread : Field.hosts.read (.array ts) = .ok (.hosts hs) :=
    Json.bind_eq_ok.2 ⟨hs, hts, rfl⟩
  refine load_of_inRange ?_ hrange
  rw [decode_tree hbs', Json.categorized_eq_ok, configurationOf, place.draftOf_fill hd, hread]
  refine Json.orData_eq_ok.2 ?_
  rw [hosts_give, hwhole]
  rfl

/-- The hosts of a loaded text are those in their place. -/
theorem hosts_of_load (hbs : Written (place.fill (.array ts)).lexemes bs)
    (hc : load now ⟨bs, .complete⟩ = .ok c) : ts.mapM (Host.hostOf 2) = .ok c.hosts := by
  obtain ⟨d, hd, hwhole⟩ := draft_of_load hbs hc
  have hsame := place.draftOf_fill hd (.array ts)
  rw [hd] at hsame
  obtain ⟨g, hread, hgive⟩ := Json.map_eq_ok.1 hsame.symm
  obtain ⟨hs, hmap, hg⟩ := Json.bind_eq_ok.1 hread
  obtain rfl := Except.ok.inj hg
  rw [← hgive, hosts_give] at hwhole
  obtain ⟨c', -, rfl⟩ := Option.map_eq_some_iff.1 hwhole
  exact hmap

/-- Hosts in range that are written in place of the hosts of a text are loaded again. -/
theorem load_written {l : Layout} (hl : l.IsBlank) {level : Nat}
    (hrange : ∀ h ∈ hs, h.location.InRange) (hbs : Written (place.fill v).lexemes bs)
    (hc : load now ⟨bs, .complete⟩ = .ok c)
    (hbs' : place.Holds ((Host.listValue hs).render l level) bs') :
    ∃ hs', load now ⟨bs', .complete⟩ = .ok { c with hosts := hs' } ∧
      List.Forall₂ Host.Reread hs hs' := by
  obtain ⟨t, hspelled, hlexed⟩ := Json.exists_spelling hl (Host.listValue hs) level
  obtain ⟨ts, hs', rfl, hmap, hall⟩ := Host.hostsOf_spelledBy hrange hspelled
    (show 2 < Json.maxDepth by decide)
  exact ⟨hs', load_of_hosts hbs hc hmap (Host.inRange_of_reread hall) (hbs'.written hlexed), hall⟩

/-- **Hosts are read again with their names and addresses.**  In any layout of white space, the text
    of a host in range is read as a host of the same name and address; and wherever a text that
    loads gives its hosts, it loads with the hosts of any list written there, which keep their
    names, their addresses and their order. -/
theorem load_names_and_addresses {l : Layout} (hl : l.IsBlank) (level : Nat) :
    (∀ h : Host, h.location.InRange →
      ∃ h', Host.read (.ofString (String.ofList (h.toValue.render l level))) = .ok h' ∧
        h'.name = h.name ∧ h'.address = h.address) ∧
    ∀ (now : Instant) (place : Place .hosts) (v : Tree) (bs bs' : List UInt8) (c : Configuration)
      (hs : List Host), Written (place.fill v).lexemes bs → load now ⟨bs, .complete⟩ = .ok c →
        (∀ h ∈ hs, h.location.InRange) → place.Holds ((Host.listValue hs).render l level) bs' →
          ∃ hs', load now ⟨bs', .complete⟩ = .ok { c with hosts := hs' } ∧
            hs'.map Host.name = hs.map Host.name ∧ hs'.map Host.address = hs.map Host.address := by
  constructor
  · intro h hrange
    obtain ⟨h', hread, hreread⟩ := Host.read_written hl hrange level
    exact ⟨h', hread, hreread.name, hreread.address⟩
  · intro now place v bs bs' c hs hbs hc hrange hbs'
    obtain ⟨hs', hload, hall⟩ := load_written hl hrange hbs hc hbs'
    exact ⟨hs', hload, Host.map_of_reread hall⟩

/-! ## A host with every escape -/

/-- A host at a corner of the globe whose name needs escapes, with an IPv4 address in an IPv6 one. -/
def corner : Host where
  name := "\"\\\n\u0001é"
  location := ⟨-90, 180⟩
  address := .v6 ⟨[0, 0, 0, 0, 0, 0xFFFF, 0x0102, 0x0304], rfl⟩

/-- The same place without a name, at an IPv4 address. -/
def nameless : Host := { corner with name := "", address := .v4 ⟨1, 2, 3, 4⟩ }

/-- The hosts of the sample, behind its other members. -/
def hostsPlace : Place .hosts :=
  .member sampleHead [] (plain "hosts")
    (show (plain "hosts").text? = some "hosts" by decide +kernel) rfl

/-- The sample with a text for its hosts. -/
def sampleAround (text : List Char) : List UInt8 :=
  spaced [] hostsPlace.front ++ (Text.utf8 text ++ spaced [] hostsPlace.back)

theorem holds_sampleAround (text : List Char) : hostsPlace.Holds text (sampleAround text) :=
  ⟨_, _, written_spaced (List.forall_mem_nil _) _, written_spaced (List.forall_mem_nil _) _, rfl⟩

/-- The hosts keep their names and their addresses, which are of two families. -/
theorem load_names_and_addresses_corner :
    Json.Layout.compact.IsBlank ∧ corner.location.InRange ∧
    (∃ h', Host.read (.ofString corner.toValue.compact) = .ok h' ∧
      h'.name = corner.name ∧ h'.address = corner.address) ∧
    ∃ c hs', load ⟨0, 0⟩ ⟨sample [], .complete⟩ = .ok c ∧
      load ⟨0, 0⟩
          ⟨sampleAround ((Host.listValue [corner, nameless]).render .compact 0), .complete⟩ =
        .ok { c with hosts := hs' } ∧
      hs'.map Host.name = ["\"\\\n\u0001é", ""] ∧
      hs'.map Host.address = [corner.address, .v4 ⟨1, 2, 3, 4⟩] := by
  have hrange : corner.location.InRange :=
    ⟨⟨by decide, by decide⟩, ⟨by decide, by decide⟩⟩
  have hall : ∀ h ∈ [corner, nameless], h.location.InRange :=
    List.forall_mem_cons.2 ⟨hrange, List.forall_mem_singleton.2 hrange⟩
  obtain ⟨c, hc⟩ := sample_loads
  obtain ⟨hread, hload⟩ := load_names_and_addresses Json.isBlank_compact 0
  obtain ⟨hs', hhs', hnames, haddresses⟩ := hload _ hostsPlace _ _ _ c _ (written_sample []) hc
    hall (holds_sampleAround _)
  exact ⟨Json.isBlank_compact, hrange, hread corner hrange, c, hs', hc, hhs', hnames, haddresses⟩

end NearestHost.Configuration
