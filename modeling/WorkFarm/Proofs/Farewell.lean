import WorkFarm.Proofs.Watches
/-!
# What a dispatcher does when it stops

Stopping is one chain of errands: nobody is watched any more, everybody is given back, and the collaborators
are let go. A collaborator may fail at each of them, and what a failure says is not even looked at. So the
chain is the same whatever fails (`SentOn`), and behind it the parked wait and the call itself are answered.
What the dispatcher remembers is forgotten before the first errand.

## Main definitions

* `Dispatcher.farewell` — the errands of a dispatcher that stops, in order
* `Dispatcher.SentOn` — the collaborators were sent on these errands, and nothing else was done

## Main statements

* `torn_down` — what is left of a dispatcher that stops, and what it has done
-/

namespace WorkFarm

universe u

namespace Dispatcher

variable {σ : Type u} (c : Collaborators σ)

/-- The errands of a dispatcher that stops: each worker is watched no more, all workers are given back if
there are any, and then nobody is watched or provided any more. -/
def farewell (workers : List Handle) (free : Bool) : List Errand :=
  workers.map .unwatch ++ (if workers = [] then [] else [.release workers])
    ++ [.stopWatching, .stopProvisioning free]

/-- The collaborators were sent on errands, each once and in this order, and nothing else was done. Which of
the errands failed is for the journal only. -/
structure SentOn (errands : List Errand) (d d' : Dispatcher σ) : Prop where
  desk : d'.toDesk = d.toDesk
  world : d'.world = errands.foldl (fun w e => c.carry e w) d.world
  journal : ∃ oks : List Bool, oks.length = errands.length ∧
    d'.journal = d.journal ++ List.zipWith Entry.errand errands oks

namespace SentOn

variable {c} {d d₁ d₂ : Dispatcher σ} {errands later : List Errand}

theorem refl (d : Dispatcher σ) : SentOn c [] d d := ⟨rfl, rfl, [], rfl, (List.append_nil _).symm⟩

theorem trans (h₁ : SentOn c errands d d₁) (h₂ : SentOn c later d₁ d₂) :
    SentOn c (errands ++ later) d d₂ := by
  obtain ⟨desk, world, oks, length, journal⟩ := h₁
  obtain ⟨desk', world', oks', length', journal'⟩ := h₂
  refine ⟨desk'.trans desk, ?_, oks ++ oks', ?_, ?_⟩
  · rw [world', world, List.foldl_append]
  · rw [List.length_append, List.length_append, length, length']
  · rw [journal', journal, List.zipWith_append length.symm, List.append_assoc]

theorem send {ε α : Type} (d : Dispatcher σ) (e : Errand) {run : σ → Except ε α × σ}
    (own : (run d.world).2 = c.carry e d.world) : SentOn c [e] d (d.send e run).2 :=
  ⟨rfl, own, [(run d.world).1.isOk], rfl, rfl⟩

theorem foldl_unwatch (workers : List Handle) (d : Dispatcher σ) :
    SentOn c (workers.map .unwatch) d
      (workers.foldl (fun d h => (d.send (.unwatch h) (c.unwatch h)).2) d) := by
  induction workers generalizing d with
  | nil => exact refl d
  | cons h workers ih => exact (send d (.unwatch h) rfl).trans (ih _)

end SentOn

/-- The collaborators are let go by one chain of errands. -/
theorem sentOn_letGo (d : Dispatcher σ) (workers : List Handle) (free : Bool) :
    SentOn c (farewell workers free) d (d.letGo c workers free) := by
  have unwatch := SentOn.foldl_unwatch (c := c) workers d
  unfold letGo farewell
  dsimp only
  generalize workers.foldl (fun d h => (d.send (.unwatch h) (c.unwatch h)).2) d = d₁ at unwatch ⊢
  have release : SentOn c (if workers = [] then [] else [.release workers]) d₁
      (if workers.isEmpty then d₁ else (d₁.send (.release workers) (c.release workers)).2) := by
    cases workers with
    | nil => exact .refl d₁
    | cons h workers => exact .send d₁ (.release (h :: workers)) rfl
  generalize (if workers.isEmpty then d₁ else _) = d₂ at release ⊢
  have stopWatching : SentOn c [.stopWatching] d₂ (d₂.send .stopWatching c.stopWatching).2 := .send _ _ rfl
  generalize (d₂.send .stopWatching c.stopWatching).2 = d₃ at stopWatching ⊢
  have stopProvisioning : SentOn c [.stopProvisioning free] d₃
      (d₃.send (.stopProvisioning free) (c.stopProvisioning free)).2 := .send _ _ rfl
  exact (unwatch.trans release).trans (stopWatching.trans stopProvisioning)

/-- **Stopping.** Before the first errand everything is forgotten, and after the last one the parked wait is
refused. -/
theorem exists_sentOn_terminate (d : Dispatcher σ) (free : Bool) :
    ∃ d₁ : Dispatcher σ,
      SentOn c (farewell d.roster.byName.values free)
        { d with backlog := {}, outbox := d.outbox.clear, roster := {}, closed := true } d₁ ∧
      d.terminate c free = d₁.refuseParked :=
  ⟨_, sentOn_letGo c _ d.roster.byName.values free, rfl⟩

theorem refuseParked_eq (d : Dispatcher σ) :
    d.refuseParked = { d with
      parked := none
      journal := d.journal ++ d.parked.toList.map fun p => .answered p.1 (.refused .terminated) } := by
  unfold refuseParked
  split
  · rename_i free
    rw [free, Option.toList_none, List.map_nil, List.append_nil]
    exact congrArg (fun parked => { d with parked }) free
  · rename_i caller w parked
    rw [parked]
    rfl

/-- **What a dispatcher does when it stops**, in any state that it can come to and whatever fails. Nothing is
left of its tasks, results, workers and parked wait. It ends watching each registered worker once, and nobody
else; then, if there is one, it gives all of them back at once, each of them once; then it stops the watching,
and then the providing, with the flag of the call. These are its only errands, and the world is what the
collaborators have made of them. Then the parked wait, if there is one, is refused, and the call itself is
answered. A caller that has gone does not hear its answer. -/
theorem torn_down (order : DeliveryOrder) (world : σ) (ms : List (Move σ)) (present : Attendance)
    (caller : Nat) (free : Bool) (running : ((start order world).moves c ms).closed = false) :
    let d := (start order world).moves c ms
    let d' := d.move c (.call present ⟨caller, .terminate free⟩)
    let workers := d.roster.byName.values
    let errands := farewell workers free
    d'.toDesk = { outbox := { order := d.outbox.order }, closed := true } ∧
      workers.Nodup ∧ (∀ h, h ∈ workers ↔ d.roster.handle? h.name = some h) ∧
      (∃ oks : List Bool, oks.length = errands.length ∧
        d'.journal = d.journal ++ List.zipWith Entry.errand errands oks
          ++ (d.parked.toList.map fun p => .answered p.1 (.refused .terminated))
          ++ [.answered caller (.flag true)]) ∧
      d'.world = errands.foldl (fun w e => c.carry e w) d.world := by
  intro d d' workers errands
  have bedded := (about_moves c (bedded_start order world) (h := default) List.not_mem_nil ms).1
  have named : d.Named := bedded.named
  have served : d' = (d.terminate c free).answer caller (.flag true) := by
    have serve : d.serve c present ⟨caller, .terminate free⟩ = _ := serve_terminate c rfl
    rw [← serve]
    exact if_neg (Bool.eq_false_iff.mp running)
  obtain ⟨d₁, sent, terminate⟩ := exists_sentOn_terminate c d free
  obtain ⟨desk, world', oks, length, journal⟩ := sent
  rw [terminate, refuseParked_eq] at served
  have parked : d₁.parked = d.parked := (congrArg Desk.parked desk).trans rfl
  rw [served]
  refine ⟨?_, ?_, fun h => named.enrolled_iff h, ⟨oks, length, ?_⟩, world'⟩
  · exact congrArg (fun k : Desk => { k with parked := none }) desk
  · refine List.nodup_iff_count_le_one.mpr fun h => ?_
    rw [named.count_values h]
    split <;> omega
  · show d₁.journal ++ _ ++ _ = _
    rw [journal, parked]

/-- A vault, beside a heartbeat and a crew that fail at every errand. -/
def unheeding : Collaborators Vault :=
  Collaborators.ofVault.failing
    (fun
      | .fetch _ | .stage _ | .evict _ => false
      | _ => true)
    "out of reach"

/-- One of two workers is restarted, and then sleeps; the other one works. One result is available and one is
held, while a wait for all results is parked. -/
def unheeded : List (Move Vault) :=
  [.outside fun v => (v.storeAll [.bool true, .bool false, .null]).2,
    .call {} ⟨0, .requestTask ⟨0, "ann"⟩⟩,
    .call {} ⟨1, .requestTask ⟨1, "bob"⟩⟩,
    .call {} ⟨2, .requestTask ⟨2, "ann"⟩⟩,
    .call {} ⟨3, .submit [⟨1⟩, ⟨2⟩, ⟨3⟩]⟩,
    .call {} ⟨4, .requestTask ⟨2, "ann"⟩⟩,
    .call {} ⟨5, .requestTask ⟨1, "bob"⟩⟩,
    .call {} ⟨6, .handIn ⟨⟨1⟩, .ok .null, "ann"⟩ ⟨2, "ann"⟩⟩,
    .call {} ⟨7, .wait .all⟩,
    .call {} ⟨8, .handIn ⟨⟨3⟩, .ok .null, "ann"⟩ ⟨2, "ann"⟩⟩,
    .look {}]

/-- All five errands fail, and the wait is refused. -/
theorem torn_down_unheeded :
    let d := (start .submission {}).moves unheeding unheeded
    let d' := d.move unheeding (.call {} ⟨9, .terminate true⟩)
    let errands := [.unwatch ⟨1, "bob"⟩, .unwatch ⟨2, "ann"⟩, .release [⟨1, "bob"⟩, ⟨2, "ann"⟩],
      .stopWatching, .stopProvisioning true]
    d.closed = false ∧ d.parked = some (7, .all) ∧
      d.outbox.available.map TaskResult.id = [⟨1⟩] ∧ d.outbox.held.keys = [⟨3⟩] ∧
      d.roster.sleeping = ["ann"] ∧ d.roster.assignment? "bob" = some ⟨2⟩ ∧
      d'.toDesk = { outbox := { order := .submission }, closed := true } ∧
      (∃ oks : List Bool, oks.length = 5 ∧
        d'.journal = d.journal ++ List.zipWith Entry.errand errands oks
          ++ [.answered 7 (.refused .terminated)] ++ [.answered 9 (.flag true)]) ∧
      ((d.since d').filterMap fun
        | .errand _ ok => some ok
        | _ => none) = List.replicate 5 false := by
  intro d d' errands
  have torn := torn_down unheeding .submission {} unheeded {} 9 true (by decide)
  have workers : d.roster.byName.values = [⟨1, "bob"⟩, ⟨2, "ann"⟩] := by decide
  have parked : d.parked = some (7, .all) := by decide
  obtain ⟨desk, -, -, journal, -⟩ := torn
  rw [workers, parked] at journal
  exact ⟨by decide, parked, by decide, by decide, by decide, by decide, desk, journal, by decide⟩

end Dispatcher

end WorkFarm
