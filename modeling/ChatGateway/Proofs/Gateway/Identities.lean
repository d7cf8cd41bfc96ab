import ChatGateway.Proofs.Gateway.Run
import ChatGateway.Proofs.Tenant.Identity
import Mathlib.Data.List.Induction

/-!
Whose an identity is, over a whole run. Pairing asks the store first, and loading and deleting give
nobody an identity. A session is confirmed under whatever identity the network reports: that is the
one way in which two tenants come to be stored with the same.
-/

namespace ChatGateway.Gateway

open Hosted.Standing (Steps Stored)
open Profile (Free)

/-- Tenants are stored as they are loaded, under whatever identities. -/
abbrev Filed (g : Gateway) : Prop := g.Keeps (fun _ => True) Stored

/-- No two tenants are stored with one identity. -/
def Sole (g : Gateway) : Prop := Profile.Sole g.host.repository.tenants

/-- Tenants are loaded, paired and deleted, and the network reports events to them. -/
def Action.Registers : Action → Prop
  | .loadAll | .pair .. | .delete _ | .atTenant _ (.event _) => True
  | _ => False

/-- The network confirms a session under an identity that is stored for another tenant. -/
def Clashes (g : Gateway) : Action → Prop
  | .atTenant token (.event (.connected wid)) =>
    g.has token = true ∧
      ∃ p ∈ g.host.repository.tenants, p.token ≠ token ∧ p.identity = some wid
  | _ => False

theorem Fresh.filed {g : Gateway} (fresh : g.Fresh) : g.Filed := by
  refine ⟨?_, fresh.rows, fun e _ => e.names_any, ?_⟩
  · rw [fresh.tenants]
    exact List.nodup_nil
  · rw [fresh.tenants]
    exact fun t member => (List.not_mem_nil member).elim

namespace Filed

variable {g : Gateway} {token wid : String}

/-- What is done at a tenant may confirm identities that are free for it. -/
theorem withTenant_sole {α : Type} (filed : g.Filed) (sole : g.Sole) (token : String)
    {act : Hosted → Hosted × Except Failure α}
    (steps : ∀ h : Hosted,
      Steps (Free g.host.repository.tenants token) h.standing (act h).1.standing) :
    (g.withTenant token act).1.Sole := by
  unfold withTenant get
  cases found : g.find? token with
  | none => exact sole
  | some h =>
      obtain ⟨t, loaded, rfl, rfl⟩ := find?_loaded found
      exact (steps _).sole (filed.recorded t loaded) filed.rows (fun _ => id) sole

theorem loadAll_sole (sole : g.Sole) : g.loadAll.1.Sole := by
  rw [Gateway.Sole, loadAll, loadEach_rows]
  exact sole

theorem delete_rows (g : Gateway) (token : String) :
    (g.delete token).1.host.repository.tenants ⊆ g.host.repository.tenants := by
  unfold delete
  cases found : g.find? token with
  | none => exact List.filter_sublist.subset
  | some h =>
      obtain ⟨t, _, _, rfl⟩ := find?_loaded found
      have rows := congrArg Hosted.Standing.rows (Hosted.logout_quiet ⟨t, g.host⟩).standing
      rw [← show _ = g.host.repository.tenants from rows]
      exact List.filter_sublist.subset

/-- The store is asked for the identity, and names its one owner. -/
theorem free_of_not_taken (sole : g.Sole) (untaken : g.isTaken wid token = false) :
    Free g.host.repository.tenants token wid := by
  intro p member different paired
  unfold isTaken Store.Repository.findByWid? at untaken
  cases found : g.host.repository.tenants.find? fun p => p.identity == some wid with
  | none => exact List.find?_eq_none.mp found p member (by simp [paired])
  | some owner =>
      rw [found] at untaken
      have own : owner.token = token := by simpa using untaken
      have holds : owner.identity = some wid := by simpa using List.find?_some found
      rw [← own] at different
      exact sole owner (List.mem_of_find?_eq_some found) wid holds p member different paired

theorem findOrCreate_sole (filed : g.Filed) (sole : g.Sole) (token : String) :
    (g.findOrCreate token).1.Sole ∧ ∀ wid, Free g.host.repository.tenants token wid →
      Free (g.findOrCreate token).1.host.repository.tenants token wid := by
  unfold findOrCreate
  split
  · exact ⟨sole, fun _ => id⟩
  · simp only [Gateway.Sole, Host.save_repository, Host.now_repository, Store.Repository.save]
    constructor
    · exact sole.put filed.rows fun wid paired => by cases paired
    · intro wid free
      apply free.of_others (Keyed.put_distinct _ filed.rows)
      exact fun other different => Keyed.find?_put_ne _ different

theorem ensureLoaded_sole (filed : g.Filed) (sole : g.Sole) (token : String) :
    (g.ensureLoaded token).Sole ∧ ∀ wid, Free g.host.repository.tenants token wid →
      Free (g.ensureLoaded token).host.repository.tenants token wid := by
  unfold ensureLoaded
  split
  · exact ⟨sole, fun _ => id⟩
  · simp only [Gateway.Sole, load_rows]
    exact filed.findOrCreate_sole sole token

theorem pair_sole (filed : g.Filed) (sole : g.Sole) (token wid : String) :
    (g.pair token wid).1.Sole := by
  unfold pair
  dsimp only
  split
  · exact sole
  · split
    · exact sole
    · split
      · exact sole
      · next untaken =>
        have free := free_of_not_taken sole (Bool.eq_false_iff.mpr untaken)
        obtain ⟨sole', kept⟩ := filed.ensureLoaded_sole sole (Text.trim token)
        have filed' : Filed (g.ensureLoaded (Text.trim token)) := filed.ensureLoaded _
        refine filed'.withTenant_sole sole' _ fun h => ?_
        exact (Hosted.pair_leads h (kept _ free)).steps.trans (Hosted.start_steps _ _)

theorem event_sole (filed : g.Filed) (sole : g.Sole) (token : String) {e : Session.Event}
    (named : e.Names (Free g.host.repository.tenants token)) :
    (g.act (.atTenant token (.event e))).Sole :=
  filed.withTenant_sole sole token fun h => (h.handle_leads named).steps

theorem connected_row (filed : g.Filed) {t : Tenant} (loaded : t ∈ g.tenants) (wid : String)
    (full : wid ≠ "") :
    ∃ row ∈ (Hosted.onConnected ⟨t, g.host⟩ wid).host.repository.tenants,
      row.token = t.token ∧ row.identity = some wid := by
  have leads : Hosted.Leads (fun _ => True) ⟨t, g.host⟩ (Hosted.onConnected ⟨t, g.host⟩ wid) :=
    Hosted.onConnected_leads _ trivial
  have stored : Stored _ := leads.steps.lasting (filed.recorded t loaded)
  have token := leads.steps.token
  have standing := Hosted.onConnected_standing ⟨t, g.host⟩ wid
  obtain ⟨row, member, own, same⟩ := stored.row
  refine ⟨row, member, own.trans token, same.trans ?_⟩
  rw [standing]
  split
  · next known => exact known.1
  · exact Profile.identity_of_wid full rfl

theorem clash_shared (filed : g.Filed) {t : Tenant} (loaded : t ∈ g.tenants) {p : Profile}
    (stored : p ∈ g.host.repository.tenants) (other : p.token ≠ t.token)
    (paired : p.identity = some wid) :
    ¬Profile.Sole (Hosted.onConnected ⟨t, g.host⟩ wid).host.repository.tenants := by
  intro sole
  have full := Profile.identity_ne_empty paired
  obtain ⟨row, member, own, same⟩ := filed.connected_row loaded wid full
  have leads : Hosted.Leads (fun _ => True) ⟨t, g.host⟩ (Hosted.onConnected ⟨t, g.host⟩ wid) :=
    Hosted.onConnected_leads _ trivial
  have kept := leads.steps.others other
  have found := (Keyed.find?_eq_some filed.rows).mpr ⟨stored, rfl⟩
  have still := (Keyed.find?_some (kept.trans found)).1
  rw [← own] at other
  exact sole row member wid same p still other paired

/-- An event confirms at most one identity; if another tenant has it, both do afterwards. -/
theorem event_sole_iff (filed : g.Filed) (sole : g.Sole) (token : String) (e : Session.Event) :
    (g.act (.atTenant token (.event e))).Sole ↔ ¬g.Clashes (.atTenant token (.event e)) := by
  cases e with
  | connected wid =>
      constructor
      · rintro after ⟨present, p, stored, other, paired⟩
        obtain ⟨t, loaded, rfl⟩ := Keyed.has_iff.mp present
        have found := find?_some ((Keyed.find?_eq_some filed.tokens).mpr ⟨loaded, rfl⟩)
        rw [act, withTenant, get, found] at after
        exact filed.clash_shared loaded stored other paired after
      · intro apart
        cases present : g.has token with
        | true =>
            apply filed.event_sole sole token
            exact fun p stored other paired => apart ⟨present, p, stored, other, paired⟩
        | false =>
            rw [has, Keyed.has_eq_false] at present
            rw [act, withTenant, get, find?, present]
            exact sole
  | _ => exact iff_of_true (filed.event_sole sole token trivial) id

/-- The one action that can make two tenants share an identity. -/
theorem act_sole_iff (filed : g.Filed) (sole : g.Sole) {a : Action} (registers : a.Registers) :
    (g.act a).Sole ↔ ¬g.Clashes a := by
  cases a with
  | loadAll => exact iff_of_true (loadAll_sole sole) id
  | pair token wid => exact iff_of_true (filed.pair_sole sole token wid) id
  | delete token => exact iff_of_true (sole.subset (delete_rows g token)) id
  | atTenant token b =>
      cases b with
      | event e => exact filed.event_sole_iff sole token e
      | _ => cases registers
  | _ => cases registers

theorem act (filed : g.Filed) {a : Action} (registers : a.Registers) : (g.act a).Filed := by
  cases a with
  | loadAll => exact filed.loadAll
  | pair token wid => exact filed.pair token wid
  | delete token => exact filed.delete token
  | atTenant token b =>
      cases b with
      | event e => exact filed.withTenant token fun h _ => h.handle_leads e.names_any
      | _ => cases registers
  | _ => cases registers

theorem run (filed : g.Filed) {actions : List Action} (registers : ∀ a ∈ actions, a.Registers) :
    (g.run actions).Filed := by
  induction actions generalizing g with
  | nil => exact filed
  | cons a rest ih =>
      exact ih (filed.act (registers a List.mem_cons_self)) fun b later =>
        registers b (List.mem_cons_of_mem a later)

end Filed

theorem run_concat (g : Gateway) (actions : List Action) (a : Action) :
    g.run (actions ++ [a]) = (g.run actions).act a := by
  rw [run, List.foldl_append]
  rfl

/-- Tenants are loaded, paired and deleted, and events reported, in any order, at a gateway that was
opened on a store where no identity is shared. None is ever shared, exactly as long as no session is
confirmed under the identity of another tenant. -/
theorem identities_are_sole {g : Gateway} (fresh : g.Fresh) (sole : g.Sole) {actions : List Action}
    (registers : ∀ a ∈ actions, a.Registers) :
    (∀ before, before <+: actions → (g.run before).Sole) ↔
      ∀ before a, before ++ [a] <+: actions → ¬(g.run before).Clashes a := by
  have step : ∀ before a, before ++ [a] <+: actions → (g.run before).Sole →
      ((g.run (before ++ [a])).Sole ↔ ¬(g.run before).Clashes a) := by
    intro before a part sole
    have filed : (g.run before).Filed := fresh.filed.run fun b member =>
      registers b (part.subset (List.mem_append_left _ member))
    rw [run_concat]
    exact filed.act_sole_iff sole (registers a (part.subset (by simp)))
  constructor
  · intro sole before a part
    have start := (List.prefix_append before [a]).trans part
    exact (step before a part (sole before start)).mp (sole _ part)
  · intro apart before part
    induction before using List.reverseRecOn with
    | nil => exact sole
    | append_singleton before a ih =>
        have start := ih ((List.prefix_append before [a]).trans part)
        exact (step before a part start).mpr (apart before a part)

/-- Two tenants are paired properly, and the second is confirmed under the first one's identity. -/
theorem second_owner_of_an_identity :
    let host : Host := { settings := {}, office := ⟨""⟩, hub := {}, clock := ⟨.epoch⟩ }
    let actions : List Action :=
      [.pair "a" "1@s.whatsapp.net", .pair "b" "2@s.whatsapp.net", .pair "b" "1@s.whatsapp.net",
        .atTenant "b" (.event (.connected "1@s.whatsapp.net"))]
    Sole { host := host } ∧ (∀ a ∈ actions, a.Registers) ∧
      (run { host := host } actions).host.repository.tenants.map (fun p => (p.token, p.wid)) =
        [("a", some "1@s.whatsapp.net"), ("b", some "1@s.whatsapp.net")] ∧
      ¬∀ before, before <+: actions → (run { host := host } before).Sole := by
  intro host actions
  have fresh : Fresh { host := host } := ⟨rfl, rfl, List.nodup_nil⟩
  have sole : Sole { host := host } := fun p member => (List.not_mem_nil member).elim
  have registers : ∀ a ∈ actions, a.Registers := by
    intro a member
    simp only [actions, List.mem_cons, List.not_mem_nil, or_false] at member
    rcases member with rfl | rfl | rfl | rfl <;> trivial
  refine ⟨sole, registers, by decide +kernel, fun always => ?_⟩
  have apart := (identities_are_sole fresh sole registers).mp always (actions.take 3) _
    (List.prefix_refl actions)
  exact apart ⟨by decide +kernel, by decide +kernel⟩

end ChatGateway.Gateway
