import Mathlib
import StructSync.Proofs.Database.Replay
import StructSync.Proofs.Run

/-!
# The journal is complete

A database, one that fails at some requests, and one behind a host that refuses some of them all are
databases behind a host. Main statement (`World.journal_retraced`): whatever descriptors do on such
a host, with all refusals and roll-backs, and whatever is requested of the database besides, the
calls in its journal made again on a copy of the first database are all taken, and end in a copy of
the last one.
-/

namespace StructSync

namespace Host.Fronts

theorem database : Fronts (id : Database → Database) := fun r _ => ⟨[r], rfl⟩

theorem faulty : Fronts FaultyDatabase.db := by
  intro r f
  rcases f.perform_cases r with h | h
  · exact ⟨[], congrArg FaultyDatabase.db h⟩
  · exact ⟨[r], congrArg FaultyDatabase.db h⟩

theorem refusing : Fronts (RefusingHost.host : RefusingHost Database → Database) := by
  intro r host
  have hmorphism := FaultyDatabase.morphism_ofRefusing
  have hsame : FaultyDatabase.ofRefusing (r.perform host) =
      r.perform (FaultyDatabase.ofRefusing host) := by
    cases r with
    | createStruct name => exact (congrArg Prod.snd (hmorphism.createStruct name host)).symm
    | deleteStruct id => exact (congrArg Prod.snd (hmorphism.deleteStruct id host)).symm
    | createMember id name offset size flags =>
      exact (congrArg Prod.snd (hmorphism.createMember id name offset size flags host)).symm
    | setMemberType id member offset type =>
      exact (congrArg Prod.snd (hmorphism.setMemberType id member offset type host)).symm
  obtain ⟨requests, hrequests⟩ := faulty r (FaultyDatabase.ofRefusing host)
  exact ⟨requests, (congrArg FaultyDatabase.db hsame).trans hrequests⟩

end Host.Fronts

namespace World

variable {σ : Type} [Host σ] {database : σ → Database}

theorem retraced_step (hfronts : Host.Fronts database) (w : World σ) {act : Act σ}
    (houtside : ∀ change, act = .outside change → ∃ requests,
      database (change w.host) = Request.performAll requests (database w.host)) :
    (database w.host).Retraced (database (w.step act).host) := by
  rcases host_step w act with ⟨change, hact, hhost⟩ | ⟨asked, hhost, -⟩
  · obtain ⟨requests, hchange⟩ := houtside change hact
    rw [hhost, hchange]
    exact .performAll requests _
  · obtain ⟨passed, hpassed⟩ := hfronts.performAll asked w.host
    rw [hhost, hpassed]
    exact .performAll passed _

theorem retraced_run (hfronts : Host.Fronts database) (w : World σ) {acts : List (Act σ)}
    (houtside : ∀ change, .outside change ∈ acts → ∀ host, ∃ requests,
      database (change host) = Request.performAll requests (database host)) :
    (database w.host).Retraced (database (acts.foldl step w).host) := by
  induction acts generalizing w with
  | nil => exact .refl _
  | cons act rest ih =>
    refine (retraced_step hfronts w fun change hact => ?_).trans (ih (w.step act) ?_)
    · exact houtside change (by simp [hact]) w.host
    · exact fun change hmem => houtside change (List.mem_cons_of_mem _ hmem)

/-- Whatever is done with a host in front of a database whose journal is empty, and whatever is
requested of that database besides: the calls in the journal, made again in order on a copy of the
database as it was, with any flags and kinds of types, are all taken, and make the same counter and
the same structs but for the flags. -/
theorem journal_retraced (hfronts : Host.Fronts database) (host : σ) (acts : List (Act σ))
    (houtside : ∀ change, .outside change ∈ acts → ∀ host, ∃ requests,
      database (change host) = Request.performAll requests (database host))
    (hempty : (database host).journal = []) (n : Nat) (again : List (HostCall × Unrecorded))
    (hagain : again.map Prod.fst = (database (after host acts n).host).journal) :
    ∃ copy, (database host).replay again = .ok copy ∧
      copy.pointerSize = (database (after host acts n).host).pointerSize ∧
      copy.nextId = (database (after host acts n).host).nextId ∧
      copy.structs.map StoredStruct.unflagged =
        (database (after host acts n).host).structs.map StoredStruct.unflagged := by
  have hrun : (database host).Retraced (database (after host acts n).host) :=
    retraced_run hfronts ⟨host, [], 0⟩ fun change hmem => houtside change (List.mem_of_mem_take hmem)
  obtain ⟨calls, hjournal, hcopy⟩ := hrun
  rw [hempty, List.nil_append] at hjournal
  obtain ⟨copy, hreplay, hcopies⟩ :=
    hcopy (database host) (.refl _) again (hagain.trans hjournal)
  exact ⟨copy, hreplay, hcopies.pointerSize, hcopies.nextId, hcopies.structs⟩

/-- A struct whose second member is refused is rolled back; then nothing is refused any more, the
struct is created, and a request adds a member that nobody declared. -/
theorem journal_retraced_rollBack :
    let host : RefusingHost Database := ⟨.empty 8, { Refusal.none with members := ["b"] }⟩
    let acts : List (Act (RefusingHost Database)) := [
      .start "pair", .parse 0 [⟨some "a", none, some "int"⟩, ⟨some "b", none, some "char"⟩],
      .call 0 .reconcile, .outside fun r => { r with refusal := .none }, .call 0 .reconcile,
      .outside (Request.perform
        (.createMember ⟨Database.firstId + 2⟩ "c" 8 1 .data))]
    let last := (after host acts 6).host.host
    last.journal.length = 10 ∧ last.journal[3]? = some (.deleteStruct ⟨Database.firstId⟩) ∧
      ∃ copy, host.host.replay (last.journal.map fun call => (call, ⟨⟨0⟩, .float⟩)) = .ok copy ∧
        copy.nextId = last.nextId ∧
        copy.structs.map StoredStruct.unflagged = last.structs.map StoredStruct.unflagged := by
  intro host acts last
  have houtside : ∀ change, .outside change ∈ acts → ∀ host : RefusingHost Database, ∃ requests,
      (change host).host = Request.performAll requests host.host := by
    intro change hmem r
    simp only [acts, List.mem_cons, List.not_mem_nil, reduceCtorEq, false_or, or_false,
      Act.outside.injEq] at hmem
    rcases hmem with rfl | rfl
    · exact ⟨[], rfl⟩
    · exact Host.Fronts.refusing _ r
  obtain ⟨copy, hreplay, -, hnext, hstructs⟩ := journal_retraced .refusing host acts houtside rfl 6
    (last.journal.map fun call => (call, ⟨⟨0⟩, .float⟩)) (by rw [List.map_map]; exact List.map_id _)
  exact ⟨by decide +kernel, by decide +kernel, copy, hreplay, hnext, hstructs⟩

end World

end StructSync
