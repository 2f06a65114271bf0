import WorkFarm.Heartbeat
import WorkFarm.Proofs.Table
/-!
# What a round of the heartbeat does

The heartbeat goes on by signals, and a signal may have it look at any number of outcomes. Whatever it is
told, nobody is watched afterwards who was not watched before, a round is about instances that were watched
when it began, and only an instance that is still watched is reported (`proceeds_step`). So an instance that
was let go while its ping was out is not reported.

## Main definitions

* `Heartbeat.Round.pinged` — the instances that a round is about
* `Heartbeat.Proceeds` — a round has gone on
-/

namespace WorkFarm

namespace Heartbeat

variable {b b₁ : Heartbeat} {hs hs' : List Handle} {acts : List Act}

/-- The instances that a round is about. -/
def Round.pinged : Round → List Handle
  | .pinging outcomes => outcomes.map Prod.fst
  | .reporting rest => rest.map Prod.fst
  | .waiting | .over => []

/-- From one heartbeat to another, a round went on that is about some instances. Nobody is watched who was
not, and whoever was reported was watched. -/
structure Proceeds (hs : List Handle) (b b' : Heartbeat) (acts : List Act) : Prop where
  watched : ∀ i h, b'.watched.get? i = some h → b.watched.get? i = some h
  pinged : b'.round.pinged ⊆ hs
  reported : ∀ h, .report h ∈ acts → h ∈ hs ∧ b.watched.contains h.serial = true

namespace Proceeds

theorem mono (proceeds : Proceeds hs b b₁ acts) (more : hs ⊆ hs') : Proceeds hs' b b₁ acts where
  watched := proceeds.watched
  pinged := List.Subset.trans proceeds.pinged more
  reported h reports := ⟨more (proceeds.reported h reports).1, (proceeds.reported h reports).2⟩

/-- The round goes on after somebody was let go. -/
theorem after_unwatch {h : Handle} (proceeds : Proceeds hs (b.unwatch h) b₁ acts) :
    Proceeds hs b b₁ acts := by
  have fewer (i : Nat) (k : Handle) (found : (b.unwatch h).watched.get? i = some k) :
      b.watched.get? i = some k := by
    rw [unwatch, Table.get?_erase] at found
    split at found
    · cases found
    · exact found
  refine ⟨fun i k found => fewer i k (proceeds.watched i k found), proceeds.pinged, ?_⟩
  intro k reports
  obtain ⟨mem, watched⟩ := proceeds.reported k reports
  obtain ⟨j, found⟩ := Option.isSome_iff_exists.mp watched
  exact ⟨mem, Option.isSome_iff_exists.mpr ⟨j, fewer _ j found⟩⟩

end Proceeds

theorem proceeds_endRound (b : Heartbeat) (hs : List Handle) :
    Proceeds hs b b.endRound.1 [b.endRound.2] := by
  unfold endRound
  split <;> exact ⟨fun _ _ found => found, List.nil_subset hs, by simp⟩

theorem proceeds_begin (b : Heartbeat) : Proceeds b.watched.values b b.begin.1 [b.begin.2] := by
  unfold begin
  split
  · exact b.proceeds_endRound _
  · refine ⟨fun _ _ found => found, ?_, by simp⟩
    show (b.watched.values.map fun h => (h, none)).map Prod.fst ⊆ _
    simp [Function.comp_def]

theorem proceeds_settle (b : Heartbeat) (outcomes : List (Handle × Bool)) :
    Proceeds (outcomes.map Prod.fst) b (b.settle outcomes).1 [(b.settle outcomes).2] := by
  induction outcomes generalizing b with
  | nil => exact b.proceeds_endRound []
  | cons outcome outcomes ih =>
    obtain ⟨h, alive⟩ := outcome
    have later := List.subset_cons_self h (outcomes.map Prod.fst)
    cases alive with
    | true => exact (ih b).mono later
    | false =>
      unfold settle
      split
      · rename_i watched
        dsimp only
        split
        · exact ((ih (b.unwatch h)).mono later).after_unwatch
        · have goes : Proceeds (h :: outcomes.map Prod.fst) (b.unwatch h)
              { b.unwatch h with round := .reporting outcomes } [] :=
            ⟨fun _ _ found => found, later, by simp⟩
          refine ⟨goes.after_unwatch.watched, later, fun k reports => ?_⟩
          cases List.mem_singleton.mp reports
          exact ⟨List.mem_cons_self, watched⟩
      · exact (ih b).mono later

theorem outcomes?_eq_some {pings : List (Handle × Option Bool)} {outcomes : List (Handle × Bool)}
    (settled : outcomes? pings = some outcomes) : outcomes.map Prod.fst = pings.map Prod.fst := by
  induction pings generalizing outcomes with
  | nil =>
    cases settled
    rfl
  | cons ping pings ih =>
    obtain ⟨h, o⟩ := ping
    cases o with
    | none => simp [outcomes?] at settled
    | some alive =>
      cases rest : outcomes? pings with
      | none =>
        rw [outcomes?] at rest
        simp [outcomes?, rest] at settled
      | some outcomes' =>
        have rest' := ih rest
        rw [outcomes?] at rest
        simp only [outcomes?, List.mapM_cons, rest] at settled
        cases settled
        simp [rest']

/-- A round is about instances that were watched when it began. -/
theorem proceeds_step (b : Heartbeat) (signal : Signal) :
    Proceeds (b.round.pinged ++ b.watched.values) b (b.step signal).1 (b.step signal).2 := by
  have passed : Proceeds (b.round.pinged ++ b.watched.values) b b [] :=
    ⟨fun _ _ found => found, List.subset_append_left _ _, by simp⟩
  unfold step
  split
  · exact b.proceeds_begin.mono (List.subset_append_right _ _)
  · rename_i pings h alive pinging
    have same : (pings.map fun p => if p.1 = h then (h, p.2.or (some alive)) else p).map Prod.fst
        = pings.map Prod.fst := by
      rw [List.map_map]
      refine List.map_congr_left fun p _ => ?_
      by_cases here : p.1 = h <;> simp [here]
    have before : pings.map Prod.fst ⊆ b.round.pinged ++ b.watched.values := by
      rw [pinging]
      exact List.subset_append_left _ _
    dsimp only
    generalize (pings.map fun p => if p.1 = h then (h, p.2.or (some alive)) else p) = pings' at same ⊢
    split
    · refine ⟨fun _ _ found => found, ?_, by simp⟩
      show pings'.map Prod.fst ⊆ _
      rwa [same]
    · rename_i outcomes settled
      refine (b.proceeds_settle outcomes).mono ?_
      rwa [outcomes?_eq_some settled, same]
  · rename_i rest reporting
    refine (b.proceeds_settle rest).mono ?_
    rw [reporting]
    exact List.subset_append_left _ _
  · exact passed

end Heartbeat

end WorkFarm
