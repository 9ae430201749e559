import WafControl.Proofs.CachedSlices
import Mathlib.Data.List.DropRight
import Mathlib.Data.List.Nodup
import Mathlib.Logic.Function.Basic

/-!
# The history of an informer

A watch lists what exists, and then follows the changes; a listing can be given up for another one
at any time (`WatchEvent.next?`). An informer takes up such events, and replays what it has cached
in between (`Turn`). Its cache then is what the events say (`Reflects`), and of the slices sent
under a key that is cached, the last is the cached one.
-/

namespace WafControl

/-- How far a watch has come with its listings. -/
inductive Phase where
  | unlisted
  | listing
  | listed
  deriving DecidableEq, Repr

namespace WatchEvent

variable {α : Type}

/-- The phase after an event, if the event can come then. -/
def next? : Phase → WatchEvent α → Option Phase
  | _, init => some .listing
  | .listing, initApply _ => some .listing
  | .listing, initDone => some .listed
  | .listed, apply _ => some .listed
  | .listed, delete _ => some .listed
  | _, _ => none

def phase? (es : List (WatchEvent α)) : Option Phase := es.foldlM next? .unlisted

def isInit : WatchEvent α → Bool
  | init => true
  | _ => false

/-- The events since the last listing began. -/
def sinceInit (es : List (WatchEvent α)) : List (WatchEvent α) := es.rtakeWhile fun e => !e.isInit

/-- What is known to exist after an event. -/
def alter (f : SliceKey → Option EndpointSlice) :
    WatchEvent EndpointSlice → SliceKey → Option EndpointSlice
  | initApply x => Function.update f x.key (some x)
  | apply x => Function.update f x.key (some x)
  | delete x => Function.update f x.key none
  | _ => f

/-- What is known to exist after the last listing and the changes that followed it. -/
def known (es : List (WatchEvent EndpointSlice)) : SliceKey → Option EndpointSlice :=
  (sinceInit es).foldl alter fun _ => none

def listedKey? : WatchEvent EndpointSlice → Option SliceKey
  | initApply x => some x.key
  | _ => none

/-- The keys listed since the last listing began. -/
def listedKeys (es : List (WatchEvent EndpointSlice)) : List SliceKey :=
  (sinceInit es).filterMap listedKey?

/-- The slice that an event applies. -/
def applied? : WatchEvent EndpointSlice → Option EndpointSlice
  | initApply x => some x
  | apply x => some x
  | _ => none

theorem phase?_concat (es : List (WatchEvent α)) (e : WatchEvent α) :
    phase? (es ++ [e]) = (phase? es).bind fun p => next? p e := by
  simp only [phase?, List.foldlM_append, List.foldlM_cons, List.foldlM_nil]
  cases List.foldlM next? Phase.unlisted es with
  | none => rfl
  | some p => cases h : next? p e <;> simp [h]

theorem sinceInit_init (es : List (WatchEvent α)) : sinceInit (es ++ [init]) = [] :=
  List.rtakeWhile_concat_neg _ _ _ (by simp [isInit])

theorem sinceInit_concat {e : WatchEvent α} (h : e.isInit = false) (es : List (WatchEvent α)) :
    sinceInit (es ++ [e]) = sinceInit es ++ [e] :=
  List.rtakeWhile_concat_pos _ _ _ (by simp [h])

theorem known_concat {e : WatchEvent EndpointSlice} (h : e.isInit = false)
    (es : List (WatchEvent EndpointSlice)) : known (es ++ [e]) = alter (known es) e := by
  rw [known, sinceInit_concat h, List.foldl_concat, known]

theorem listedKeys_concat {e : WatchEvent EndpointSlice} (h : e.isInit = false)
    (es : List (WatchEvent EndpointSlice)) :
    listedKeys (es ++ [e]) = listedKeys es ++ (listedKey? e).toList := by
  rw [listedKeys, sinceInit_concat h, List.filterMap_append, listedKeys]
  cases h : listedKey? e <;> simp [h]

end WatchEvent

namespace Informer

/-- What an informer takes up. -/
inductive Turn where
  | event (e : WatchEvent EndpointSlice)
  | resync
  | announced (hosts : List String)
  deriving DecidableEq, Repr

namespace Turn

def event? : Turn → Option (WatchEvent EndpointSlice)
  | event e => some e
  | _ => none

/-- Whether a turn replays the slices of a service. -/
def Replays : Turn → String → Prop
  | event _, _ => False
  | resync, _ => True
  | announced hosts, fqdn => fqdn ∈ hosts

def next (i : Informer) : Turn → Informer
  | event e => (i.handle e).2
  | _ => i

/-- Whether these slices may be sent in a turn. Cached slices are replayed in any order. -/
def Sends (i : Informer) : Turn → List EndpointSlice → Prop
  | event e, slices => slices = (i.handle e).1
  | resync, slices => slices.Perm i.replayAll
  | announced hosts, slices => slices.Perm (i.replayHosts hosts)

/-- What is sent in a turn if cached slices are replayed in the order of the cache. -/
def slices (i : Informer) : Turn → List EndpointSlice
  | event e => (i.handle e).1
  | resync => i.replayAll
  | announced hosts => i.replayHosts hosts

theorem sends_slices (i : Informer) (turn : Turn) : turn.Sends i (turn.slices i) := by
  cases turn with
  | event e => rfl
  | resync => exact List.Perm.refl _
  | announced hosts => exact List.Perm.refl _

end Turn

/-- The turns of an informer, each with the slices sent in it. -/
abbrev History := List (Turn × List EndpointSlice)

namespace History

def after (i : Informer) (h : History) : Informer := h.foldl (fun i entry => entry.1.next i) i

/-- Whether every turn sends what it may send. -/
def Sends : Informer → History → Prop
  | _, [] => True
  | i, entry :: h => entry.1.Sends i entry.2 ∧ Sends (entry.1.next i) h

def ofTurns (i : Informer) : List Turn → History
  | [] => []
  | turn :: turns => (turn, turn.slices i) :: ofTurns (turn.next i) turns

def events (h : History) : List (WatchEvent EndpointSlice) := h.filterMap fun entry => entry.1.event?

def sent (h : History) : List EndpointSlice := h.flatMap Prod.snd

theorem sends_append {i : Informer} {h h' : History} :
    Sends i (h ++ h') ↔ h.Sends i ∧ h'.Sends (h.after i) := by
  induction h generalizing i with
  | nil => simp [Sends, after]
  | cons entry h ih => rw [List.cons_append, Sends, Sends, ih, and_assoc]; rfl

theorem sends_ofTurns (i : Informer) (turns : List Turn) : (ofTurns i turns).Sends i := by
  induction turns generalizing i with
  | nil => trivial
  | cons turn turns ih => exact ⟨turn.sends_slices i, ih (turn.next i)⟩

theorem after_concat (i : Informer) (h : History) (entry : Turn × List EndpointSlice) :
    after i (h ++ [entry]) = entry.1.next (h.after i) := by
  simp [after]

theorem sent_concat (h : History) (entry : Turn × List EndpointSlice) :
    sent (h ++ [entry]) = h.sent ++ entry.2 := by
  simp [sent]

theorem events_concat (h : History) (entry : Turn × List EndpointSlice) :
    events (h ++ [entry]) = h.events ++ entry.1.event?.toList := by
  cases he : entry.1.event? <;> simp [events, he]

end History

/-! ### What the cache is -/

open WatchEvent

/-- The state of a listing. Keys that it has not named yet may still be cached. -/
structure Lists (es : List (WatchEvent EndpointSlice)) (i : Informer) (keys : List SliceKey) :
    Prop where
  listing : i.listing = some keys
  mem_iff : ∀ k, k ∈ keys ↔ k ∈ listedKeys es
  named : ∀ k ∈ keys, known es k ≠ none ∧ i.cache.find? k = known es k
  unnamed : ∀ k, k ∉ keys → known es k = none

/-- How an informer reflects the events up to a phase. -/
def Reflects (es : List (WatchEvent EndpointSlice)) (i : Informer) : Phase → Prop
  | .unlisted => True
  | .listing => ∃ keys, i.Lists es keys
  | .listed => ∀ k, i.cache.find? k = known es k

variable {es : List (WatchEvent EndpointSlice)} {i : Informer} {keys : List SliceKey}

theorem lists_init (es : List (WatchEvent EndpointSlice)) (i : Informer) :
    (i.handle init).2.Lists (es ++ [init]) [] where
  listing := rfl
  mem_iff := fun k => by rw [listedKeys, sinceInit_init]; rfl
  named := fun _ hk => absurd hk List.not_mem_nil
  unnamed := fun k _ => by rw [known, sinceInit_init]; rfl

theorem find?_store (i : Informer) (x : EndpointSlice) (k : SliceKey) :
    (i.store x).cache.find? k = Function.update i.cache.find? x.key (some x) k := by
  by_cases hk : k = x.key
  · subst hk
    rw [Function.update_self]
    exact Table.find?_insert_self i.cache x.key x
  · rw [find?_store_of_ne i hk, Function.update_of_ne hk]

theorem Lists.initApply (h : i.Lists es keys) (x : EndpointSlice) :
    (i.handle (.initApply x)).2.Lists (es ++ [.initApply x]) (x.key :: keys) where
  listing := by simp [handle, h.listing]
  mem_iff := by
    intro k
    rw [listedKeys_concat rfl, List.mem_cons, h.mem_iff, List.mem_append, or_comm]
    simp [listedKey?]
  named := by
    intro k hk
    have hfind : (i.handle (.initApply x)).2.cache.find? k =
        Function.update i.cache.find? x.key (some x) k := i.find?_store x k
    rw [hfind, known_concat rfl, alter]
    by_cases heq : k = x.key
    · subst heq
      simp
    · rw [Function.update_of_ne heq, Function.update_of_ne heq]
      exact h.named k ((List.mem_cons.1 hk).resolve_left heq)
  unnamed := by
    intro k hk
    obtain ⟨hne, hk⟩ := not_or.1 (mt List.mem_cons.2 hk)
    rw [known_concat rfl, alter, Function.update_of_ne hne]
    exact h.unnamed k hk

theorem Lists.initDone (h : i.Lists es keys) :
    Reflects (es ++ [.initDone]) (i.handle .initDone).2 .listed := by
  intro k
  rw [known_concat rfl]
  change _ = known es k
  by_cases hk : k ∈ keys
  · simp [handle, h.listing, Table.find?_filterKeys, hk, (h.named k hk).2]
  · simp [handle, h.listing, Table.find?_filterKeys, hk, h.unnamed k hk]

theorem Reflects.apply (h : Reflects es i .listed) (x : EndpointSlice) :
    Reflects (es ++ [apply x]) (i.handle (apply x)).2 .listed := by
  intro k
  rw [known_concat rfl, alter, ← funext h]
  exact i.find?_store x k

theorem Reflects.delete (h : Reflects es i .listed) (x : EndpointSlice) :
    Reflects (es ++ [delete x]) (i.handle (delete x)).2 .listed := by
  intro k
  rw [known_concat rfl, alter, ← funext h]
  by_cases hk : k = x.key
  · subst hk
    rw [Function.update_self]
    exact Table.find?_erase_self i.cache x.key
  · rw [Function.update_of_ne hk]
    exact Table.find?_erase_of_ne i.cache hk

/-- Every event that can come in a phase is reflected in the next one. -/
theorem Reflects.handle {p p' : Phase} {e : WatchEvent EndpointSlice} (h : Reflects es i p)
    (hp : next? p e = some p') : Reflects (es ++ [e]) (i.handle e).2 p' := by
  cases e with
  | init => cases p <;> cases hp <;> exact ⟨[], lists_init es i⟩
  | initApply x =>
      cases p <;> cases hp
      obtain ⟨keys, hkeys⟩ := h
      exact ⟨x.key :: keys, hkeys.initApply x⟩
  | initDone =>
      cases p <;> cases hp
      obtain ⟨keys, hkeys⟩ := h
      exact hkeys.initDone
  | apply x =>
      cases p <;> cases hp
      exact h.apply x
  | delete x =>
      cases p <;> cases hp
      exact h.delete x

/-- A listing that is complete leaves cached what it named. -/
theorem Lists.mem_keys_initDone (h : i.Lists es keys) (k : SliceKey) :
    k ∈ (i.handle .initDone).2.cache.keys ↔ k ∈ listedKeys es := by
  rw [Table.mem_keys_iff, h.initDone k, known_concat rfl, ← h.mem_iff]
  change known es k ≠ none ↔ k ∈ keys
  by_cases hk : k ∈ keys
  · simp [hk, (h.named k hk).1]
  · simp [hk, h.unnamed k hk]

/-! ### What is sent -/

theorem fst_handle (i : Informer) (e : WatchEvent EndpointSlice) :
    (i.handle e).1 = e.applied?.toList := by
  cases e with
  | initDone => cases h : i.listing <;> simp [Informer.handle, h, applied?]
  | _ => rfl

theorem Keyed.nodup_values (h : i.Keyed) : i.cache.values.Nodup := by
  refine List.Nodup.of_map EndpointSlice.key ?_
  have hkeys : i.cache.values.map EndpointSlice.key = i.cache.keys := by
    rw [Table.values, List.map_map]
    exact List.map_congr_left h.key
  rw [hkeys]
  exact h.nodup

theorem Turn.Sends.forwards {turn : Turn} {slices : List EndpointSlice}
    (h : turn.Sends i slices) (hi : i.Keyed) : i.Forwards slices (turn.next i) := by
  cases turn with
  | event e =>
      cases h
      exact forwards_handle hi e
  | resync => exact forwards_cached hi fun x hx => (mem_replay_iff.1 (h.mem_iff.1 hx)).1
  | announced hosts =>
      exact forwards_cached hi fun x hx => (mem_replayHosts_iff.1 (h.mem_iff.1 hx)).1

theorem Turn.Sends.replayed {turn : Turn} {slices : List EndpointSlice}
    (h : turn.Sends i slices) (hi : i.Keyed) (ht : turn.event? = none) :
    slices.Nodup ∧ ∀ x, x ∈ slices ↔ (∃ k, i.cache.find? k = some x) ∧
      ∃ fqdn, x.serviceFqdn? = some fqdn ∧ turn.Replays fqdn := by
  have hcached : ∀ x, x ∈ i.cache.values ↔ ∃ k, i.cache.find? k = some x := fun x =>
    ⟨fun hx => ⟨x.key, hi.find?_of_mem_values hx⟩, fun ⟨_, hk⟩ => mem_values_of_find? hk⟩
  cases turn with
  | event e => cases ht
  | resync =>
      refine ⟨h.nodup_iff.2 (hi.nodup_values.filter _), fun x => ?_⟩
      rw [h.mem_iff, replayAll, mem_replay_iff, hcached]
      simp [Turn.Replays]
  | announced hosts =>
      refine ⟨h.nodup_iff.2 (hi.nodup_values.filter _), fun x => ?_⟩
      rw [h.mem_iff, mem_replayHosts_iff, hcached]
      rfl

namespace History

theorem keyed_after {h : History} (hs : h.Sends {}) : (h.after {}).Keyed := by
  induction h using List.reverseRecOn with
  | nil => exact keyed_empty
  | append_singleton h entry ih =>
      obtain ⟨hbefore, hlast, -⟩ := sends_append.1 hs
      rw [after_concat]
      exact (hlast.forwards (ih hbefore)).keyed

/-- Of the slices that were sent under a cached key, the last is the cached one. -/
theorem latest {h : History} (hs : h.Sends {}) :
    ∀ k x, (h.after {}).cache.find? k = some x →
      (h.sent.reverse.find? fun y => decide (y.key = k)) = some x := by
  induction h using List.reverseRecOn with
  | nil => nofun
  | append_singleton h entry ih =>
      obtain ⟨hbefore, hlast, -⟩ := sends_append.1 hs
      rw [after_concat, sent_concat, List.reverse_append]
      exact (hlast.forwards (keyed_after hbefore)).latest (ih hbefore)

theorem reflects {h : History} {p : Phase} (hp : phase? h.events = some p) :
    Reflects h.events (h.after {}) p := by
  induction h using List.reverseRecOn generalizing p with
  | nil =>
      cases hp
      trivial
  | append_singleton h entry ih =>
      rw [events_concat] at hp ⊢
      rw [after_concat]
      obtain ⟨turn, slices⟩ := entry
      cases turn with
      | event e =>
          have hphases := (phase?_concat (events h) e).symm.trans hp
          obtain ⟨p₀, hp₀, hnext⟩ := Option.bind_eq_some_iff.1 hphases
          exact (ih hp₀).handle hnext
      | resync | announced hosts =>
          -- what is replayed stays as it is
          simp only [Turn.event?, Option.toList_none, List.append_nil] at hp ⊢
          exact ih hp

/-- What holds of the turns of an informer that started empty, whose watch is in phase `p`. -/
structure Faithful (h : History) (p : Phase) : Prop where
  /-- A listing that was just completed leaves the keys that it named. -/
  listed : ∀ earlier slices, h = earlier ++ [(.event .initDone, slices)] →
    ∀ k, k ∈ (h.after {}).cache.keys ↔ k ∈ listedKeys h.events
  /-- Later the cache is that listing with the changes since. -/
  current : p = .listed → ∀ k, (h.after {}).cache.find? k = known h.events k
  /-- An event sends the slice that it applies, if it applies one. -/
  applied : ∀ e slices, (.event e, slices) ∈ h → slices = e.applied?.toList
  inOrder : sent (h.filter fun entry => entry.1.event?.isSome) = h.events.filterMap applied?
  /-- Other turns send what is cached then and belongs to the services, and nothing twice. -/
  replayed : ∀ earlier turn slices later, h = earlier ++ (turn, slices) :: later →
    turn.event? = none → slices.Nodup ∧
      ∀ x, x ∈ slices ↔ (∃ k, (after {} earlier).cache.find? k = some x) ∧
        ∃ fqdn, x.serviceFqdn? = some fqdn ∧ turn.Replays fqdn
  /-- Of the slices that were sent under a cached key, the last is the cached one. -/
  latest : ∀ k x, (h.after {}).cache.find? k = some x →
    (h.sent.reverse.find? fun y => decide (y.key = k)) = some x

theorem applied {h : History} {i : Informer} (hs : h.Sends i) {e : WatchEvent EndpointSlice}
    {slices : List EndpointSlice} (hmem : (.event e, slices) ∈ h) : slices = e.applied?.toList := by
  obtain ⟨earlier, later, rfl⟩ := List.append_of_mem hmem
  have hsent : slices = ((after i earlier).handle e).1 := (sends_append.1 hs).2.1
  rw [hsent, fst_handle]

theorem inOrder {h : History}
    (happlied : ∀ e slices, (.event e, slices) ∈ h → slices = e.applied?.toList) :
    sent (h.filter fun entry => entry.1.event?.isSome) = h.events.filterMap applied? := by
  induction h with
  | nil => rfl
  | cons entry h ih =>
      obtain ⟨turn, slices⟩ := entry
      have hrest := ih fun e slices hmem => happlied e slices (List.mem_cons_of_mem _ hmem)
      cases turn with
      | event e =>
          have hslices := happlied e slices List.mem_cons_self
          change slices ++ sent (h.filter _) = (e :: events h).filterMap applied?
          rw [hslices, hrest, List.filterMap_cons]
          cases e.applied? <;> rfl
      | resync | announced hosts => exact hrest

/-- Whatever a watch that keeps to its protocol reports, and whatever is replayed in between: the
informer caches what is known to exist, sends each change once and replays what it has cached. -/
theorem history_faithful {h : History} (hs : h.Sends {}) {p : Phase} (hp : phase? h.events = some p) :
    h.Faithful p where
  listed := by
    rintro earlier slices rfl k
    rw [events_concat] at hp ⊢
    obtain ⟨p₀, hp₀, hnext⟩ := Option.bind_eq_some_iff.1
      ((phase?_concat (events earlier) .initDone).symm.trans hp)
    cases p₀ <;> cases hnext
    obtain ⟨keys, hkeys⟩ := reflects hp₀
    rw [after_concat]
    refine (hkeys.mem_keys_initDone k).trans ?_
    change k ∈ listedKeys (events earlier) ↔ k ∈ listedKeys (events earlier ++ [.initDone])
    rw [listedKeys_concat rfl]
    simp [listedKey?]
  current := by
    rintro rfl
    exact reflects hp
  applied := fun e slices hmem => applied hs hmem
  inOrder := inOrder fun e slices hmem => applied hs hmem
  replayed := by
    rintro earlier turn slices later rfl ht
    obtain ⟨hbefore, hturn, -⟩ := sends_append.1 hs
    exact hturn.replayed (keyed_after hbefore) ht
  latest := latest hs

/-- A slice of a service in one namespace, with one endpoint. -/
def ownedSlice (service address : String) : EndpointSlice where
  name := some (service ++ "-1")
  namespaceName := some "blue"
  owners := [{ kind := "Service", name := service }]
  endpoints := [{ addresses := [address] }]

/-- Of two slices that are listed, one changes. The next listing is given up and starts over, and
then the other slice is gone. There are replays all along. -/
def relisting : History :=
  ofTurns {} [.event .init, .event (.initApply (ownedSlice "shop" "10.0.0.1")),
    .event (.initApply (ownedSlice "blog" "10.0.0.2")), .event .initDone, .resync,
    .event (.apply (ownedSlice "shop" "10.0.0.3")), .announced ["shop.blue.svc"],
    .event .init, .event (.initApply (ownedSlice "blog" "10.0.0.2")), .resync,
    .event .init, .event (.initApply (ownedSlice "shop" "10.0.0.3")), .resync, .event .initDone]

theorem relisting_faithful :
    phase? relisting.events = some .listed ∧ relisting.Faithful .listed ∧
      (relisting.after {}).cache.keys = [("blue", "shop-1")] := by
  have hp : phase? relisting.events = some .listed := by decide +kernel
  exact ⟨hp, history_faithful (sends_ofTurns {} _) hp, by decide +kernel⟩

end History

end Informer

/-! ### Loops -/

namespace InformerLoop

open Informer

/-- What a loop takes is a turn of its informer. That nobody announces hosts any more is like an
announcement without hosts. -/
theorem sends_step {l l' : InformerLoop} {now : Nat} {feed : HostFeed}
    {slices : List EndpointSlice} (h : l.step now feed = (some slices, l')) :
    ∃ turn : Turn, turn.Sends l.informer slices ∧ l'.informer = turn.next l.informer := by
  simp only [step] at h
  cases hr : (l.watch.receive now).1 with
  | some e =>
      rw [hr] at h
      cases h
      exact ⟨.event e, rfl, rfl⟩
  | none =>
      simp only [hr] at h
      split at h
      · cases h
        exact ⟨.resync, List.Perm.refl _, rfl⟩
      · split at h
        · cases h
          exact ⟨.announced feed.hosts.latest, List.Perm.refl _, rfl⟩
        · split at h
          · cases h
            refine ⟨.announced [], ?_, rfl⟩
            simp [Turn.Sends, replayHosts, replay]
          · cases h

/-- What a loop does at one moment is a history of its informer, and what was sent in it comes into
the mailbox or is still held back. -/
theorem exists_history_settle (l : InformerLoop) (now : Nat) (feed : HostFeed)
    (box : Mailbox EndpointSlice) :
    ∃ h : History, h.Sends l.informer ∧ ∀ l', (l.settle now feed box).2 = some l' →
      l'.informer = h.after l.informer ∧
        (l.settle now feed box).1.items ++ l'.unsent = box.items ++ l.unsent ++ h.sent := by
  fun_induction settle l now feed box with
  | case1 =>
      refine ⟨[], trivial, fun l' hl => ?_⟩
      cases hl
  | case2 l box hopen offered hfull =>
      refine ⟨[], trivial, ?_⟩
      rintro _ ⟨⟩
      exact ⟨rfl, by simpa [History.sent] using box.offer_append l.unsent⟩
  | case3 l box hopen offered hroom l' hstep =>
      refine ⟨[], trivial, ?_⟩
      rintro _ ⟨⟩
      have hsame := l.step_none now feed (by rw [hstep])
      rw [hstep] at hsame
      have hinformer : l'.informer = l.informer := by
        simpa using congrArg InformerLoop.informer hsame
      have hfits := box.offer_append l.unsent
      rw [not_not.1 hroom] at hfits
      exact ⟨hinformer, by simpa [History.sent] using hfits⟩
  | case4 l box hopen offered hroom slices l' hstep ih =>
      obtain ⟨turn, hsends, hnext⟩ := sends_step hstep
      obtain ⟨h, hs, hrest⟩ := ih
      refine ⟨(turn, slices) :: h, ⟨hsends, hnext ▸ hs⟩, fun l'' hl => ?_⟩
      obtain ⟨hinformer, hitems⟩ := hrest l'' hl
      have hfits := box.offer_append l.unsent
      rw [not_not.1 hroom, List.append_nil] at hfits
      refine ⟨hinformer.trans (by rw [hnext]; rfl), ?_⟩
      rw [hitems, hfits]
      simp [History.sent]

end InformerLoop

end WafControl
