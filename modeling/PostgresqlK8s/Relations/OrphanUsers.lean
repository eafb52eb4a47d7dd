import PostgresqlK8s.Relations.ClientUsers

/-!
# Relations.OrphanUsers

What becomes of the user of a relation that is removed.  No deletion fails, and
no unit handles a request for a database that it had deferred when its relation
is gone.  Then the user is there as long only as every unit that stays still has
the event of the removal, so it is gone when one of them has handled it, and
does not come back.
-/

namespace PostgresqlK8s.Relations.ClientUsers

open Machine

namespace Provider

/-- What is asked of the cluster and the clients. -/
def Clean (s : Provider) : Event → Prop
  | .deferredRequest _ r _ => s.client r ≠ none
  | .relationBroken u r y => s.leader = u → s.departing u = false → y.ready = true →
      s.broken u r = true → y.deleted = true
  | _ => True

instance (s : Provider) : (e : Event) → Decidable (Clean s e)
  | .deferredRequest _ r _ =>
    decidable_of_iff ((s.client r).isSome = true) Option.isSome_iff_ne_none
  | .relationBroken u r y => inferInstanceAs (Decidable (s.leader = u → s.departing u = false →
      y.ready = true → s.broken u r = true → y.deleted = true))
  | .relationCreated _ | .clientWrites .. | .relationChanged .. | .relationRemoved _
  | .unitDeparts _ | .leaderElected _ => .isTrue trivial

/-- Every unit that stays has the event of a removed relation whose user is
there. -/
def UsersWatched (n : Nat) (s : Provider) : Prop :=
  ∀ r, s.client r = none → s.password r ≠ none →
    ∀ u < n, s.departing u = false → s.broken u r = true

variable {s t : Provider} {n u r : Nat} {y : BrokenAnswers} {e : Event}

/-! ## the events -/

/-- A step that touches a relation which is there. -/
theorem UsersWatched.touches (hs : UsersWatched n s) (h : Touches r s t) (hr : s.client r ≠ none) :
    UsersWatched n t := by
  intro r' hgone huser v hv hstays
  obtain rfl | hne := eq_or_ne r' r
  · exact absurd (h.gone.mp hgone) hr
  · rw [h.client r' hne] at hgone
    rw [h.password r' hne] at huser
    rw [h.departing] at hstays
    rw [h.broken]
    exact hs r' hgone huser v hv hstays

/-- A unit takes the event of a relation that has no user, or is being
removed. -/
theorem UsersWatched.takeBroken (hs : UsersWatched n s)
    (h : s.password r = none ∨ s.departing u = true) : UsersWatched n (s.takeBroken u r) := by
  intro r' hgone huser v hv hstays
  have hbroken := hs r' hgone huser v hv hstays
  by_cases hvu : v = u
  · by_cases hr : r' = r
    · subst hvu hr
      rcases h with hnone | hdeparting
      · exact absurd hnone huser
      · rw [Provider.takeBroken] at hstays
        rw [hdeparting] at hstays
        cases hstays
    · simpa [Provider.takeBroken, hvu, hr] using hvu ▸ hbroken
  · simpa [Provider.takeBroken, hvu] using hbroken

/-- Without its user, a relation needs no watch. -/
theorem UsersWatched.deleteUser (hs : UsersWatched n s) :
    UsersWatched n (s.setPassword r none) := by
  intro r' hgone huser
  obtain rfl | hne := eq_or_ne r' r
  · exact absurd (Function.update_self ..) huser
  · refine hs r' hgone ?_
    simp only [setPassword, Function.update_of_ne hne] at huser
    exact huser

/-- The removal of a relation deletes its user, or is watched by another unit. -/
theorem UsersWatched.onRelationBroken (hs : UsersWatched n s)
    (hclean : s.leader = u → s.departing u = false → y.ready = true → s.broken u r = true →
      y.deleted = true) : UsersWatched n (s.onRelationBroken u r y) := by
  unfold Provider.onRelationBroken
  split
  · exact hs
  next hbroken =>
  split
  · exact hs
  next hready =>
  split
  · next hdeparting => exact hs.takeBroken (.inr hdeparting)
  next hstays =>
  split
  · split
    · exact hs
    next huser =>
    split
    · exact hs.takeBroken (.inl (by simpa using huser))
    · exact hs
  · next hleader =>
    have hdeleted := hclean (not_not.mp hleader) (by simpa using hstays) (by simpa using hready)
      (by simpa using hbroken)
    simp only [hdeleted, if_true]
    split
    · exact hs.deleteUser.takeBroken (.inl (Function.update_self ..))
    · exact hs.deleteUser

/-- **Step**: every event keeps the users watched. -/
theorem UsersWatched.next (hs : UsersWatched n s) (he : Clean s e) :
    UsersWatched n (next n s e) := by
  cases e with
  | relationCreated r =>
    rw [Provider.next]
    split
    · intro r' hgone
      obtain rfl | hne := eq_or_ne r' r
      · simp [setClient] at hgone
      · simp only [setClient, Function.update_of_ne hne] at hgone
        exact hs r' hgone
    · exact hs
  | clientWrites r remote =>
    rw [Provider.next]
    split
    · exact hs
    · next c hc => exact hs.touches (touches_setClient hc) (by simp [hc])
  | relationChanged u r decodes x =>
    rw [Provider.next]
    split
    · cases hc : s.client r with
      | none =>
          rw [Provider.onRelationChanged, hc]
          exact hs
      | some c => exact hs.touches touches_onRelationChanged (by simp [hc])
    · exact hs
  | deferredRequest u r x =>
    rw [Provider.next]
    split
    · exact hs.touches touches_onDeferredRequest he
    · exact hs
  | relationRemoved r =>
    rw [Provider.next]
    split
    · exact hs
    · intro r' hgone huser v hv hstays
      obtain rfl | hne := eq_or_ne r' r
      · simp [hv]
      · simp only [setClient, Function.update_of_ne hne] at hgone
        simpa [hne] using hs r' hgone huser v hv hstays
  | relationBroken u r y =>
    rw [Provider.next]
    split
    · exact hs.onRelationBroken he
    · exact hs
  | unitDeparts u =>
    intro r' hgone huser v hv hstays
    refine hs r' hgone huser v hv ?_
    simp only [Provider.next, Function.update_apply] at hstays
    split at hstays
    · cases hstays
    · exact hstays
  | leaderElected u =>
    rw [Provider.next]
    split
    · exact hs
    · exact hs

/-- **Users of removed relations**: where a unit that stays has handled the
removal of a relation, its user is gone, whatever happens next. -/
theorem no_orphan_user {leader : Nat} {es : List Event}
    (hes : Along (next n) Clean (initial leader) es)
    (hgone : (run (next n) (initial leader) es).client r = none) (hu : u < n)
    (hstays : (run (next n) (initial leader) es).departing u = false)
    (hhandled : (run (next n) (initial leader) es).broken u r = false) :
    (run (next n) (initial leader) es).password r = none := by
  have hinv : UsersWatched n (run (next n) (initial leader) es) :=
    run_of_along (UsersWatched n) (fun _ _ hs he => hs.next he)
      (fun _ _ huser => absurd rfl huser) hes
  by_contra huser
  rw [hinv r hgone huser u hu hstays] at hhandled
  cases hhandled

/-- The user of a relation is created, and deleted by the second leader. -/
def createdAndRemoved : List Event :=
  [.relationCreated 4, .clientWrites 4 askingClient, .relationChanged 0 4 true (goodAnswers "pw"),
    .relationRemoved 4, .relationBroken 1 4 ⟨true, true, true⟩, .leaderElected 1,
    .relationBroken 1 4 ⟨true, true, true⟩]

/-- A relation whose user is created and whose removal is handled. -/
theorem no_orphan_user_second :
    (run (next 3) (initial 0) createdAndRemoved).password 4 = none :=
  no_orphan_user (u := 1) (by decide) rfl (by decide) rfl rfl

end Provider

end PostgresqlK8s.Relations.ClientUsers
