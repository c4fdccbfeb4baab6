/-!
# Leaders and their followers

Entries of a list either lead or follow. Each leader has the followers that come before
the next leader, and the last leader is the one that a further follower would join.
-/

namespace RhythmChart

variable {σ : Type} {isFollower : σ → Bool}

/-- The leaders of a list, each with the followers between it and the next leader. -/
def withFollowers (isFollower : σ → Bool) : List σ → List (σ × List σ)
  | [] => []
  | x :: rest =>
      if isFollower x then withFollowers isFollower rest
      else (x, rest.takeWhile isFollower) :: withFollowers isFollower rest

theorem withFollowers_eq_nil {xs : List σ} (all : ∀ x ∈ xs, isFollower x = true) :
    withFollowers isFollower xs = [] := by
  induction xs with
  | nil => rfl
  | cons x rest ih =>
      obtain ⟨follower, others⟩ := List.forall_mem_cons.mp all
      rw [withFollowers, if_pos follower]
      exact ih others

theorem withFollowers_append_cons (before : List σ) {leader : σ} {followers : List σ}
    (leads : isFollower leader = false) (all : ∀ x ∈ followers, isFollower x = true) :
    withFollowers isFollower (before ++ leader :: followers) =
      withFollowers isFollower before ++ [(leader, followers)] := by
  induction before with
  | nil =>
      have whole : followers.takeWhile isFollower = followers := by
        have closed := @List.takeWhile_append_of_pos _ isFollower followers [] all
        rwa [List.takeWhile_nil, List.append_nil] at closed
      simp [withFollowers, leads, whole, withFollowers_eq_nil all]
  | cons y rest ih =>
      have unchanged :
          (rest ++ leader :: followers).takeWhile isFollower =
            rest.takeWhile isFollower := by
        rw [List.takeWhile_append]
        split
        · rename_i whole
          have same := (List.takeWhile_prefix isFollower).eq_of_length whole
          rw [List.takeWhile_cons_of_neg (by simp [leads]), List.append_nil, same]
        · rfl
      rw [List.cons_append, withFollowers, withFollowers, unchanged, ih]
      split <;> rfl

/-- A list has followers only, or a last leader. -/
theorem all_or_last_leader (isFollower : σ → Bool) (xs : List σ) :
    (∀ x ∈ xs, isFollower x = true) ∨
      ∃ before leader followers, xs = before ++ leader :: followers ∧
        isFollower leader = false ∧ ∀ x ∈ followers, isFollower x = true := by
  induction xs with
  | nil => exact .inl fun _ member => nomatch member
  | cons x rest ih =>
      rcases ih with all | ⟨before, leader, followers, rfl, leads, all⟩
      · cases first : isFollower x with
        | true => exact .inl (List.forall_mem_cons.mpr ⟨first, all⟩)
        | false => exact .inr ⟨[], x, rest, rfl, first, all⟩
      · exact .inr ⟨x :: before, leader, followers, rfl, leads, all⟩

/-- A follower joins no leader if there is none. -/
theorem withFollowers_append_of_nil {xs : List σ} {follower : σ}
    (none : withFollowers isFollower xs = []) (follows : isFollower follower = true) :
    withFollowers isFollower (xs ++ [follower]) = [] := by
  rcases all_or_last_leader isFollower xs with all
    | ⟨before, leader, followers, rfl, leads, all⟩
  · refine withFollowers_eq_nil (List.forall_mem_append.mpr ⟨all, ?_⟩)
    exact List.forall_mem_singleton.mpr follows
  · rw [withFollowers_append_cons before leads all] at none
    exact absurd none (List.append_ne_nil_of_right_ne_nil _ (List.cons_ne_nil _ _))

/-- A follower joins the last leader. -/
theorem withFollowers_append_of_last {xs followers : List σ} {leader follower : σ}
    {front : List (σ × List σ)}
    (last : withFollowers isFollower xs = front ++ [(leader, followers)])
    (follows : isFollower follower = true) :
    withFollowers isFollower (xs ++ [follower]) = front ++
      [(leader, followers ++ [follower])] := by
  rcases all_or_last_leader isFollower xs with all
    | ⟨before, leader', followers', rfl, leads, all⟩
  · rw [withFollowers_eq_nil all] at last
    exact absurd last.symm (List.append_ne_nil_of_right_ne_nil _ (List.cons_ne_nil _ _))
  · rw [withFollowers_append_cons before leads all] at last
    obtain ⟨rfl, same⟩ := List.append_inj' last rfl
    obtain ⟨rfl, rfl⟩ := Prod.mk.inj (List.singleton_inj.mp same)
    rw [List.append_assoc, List.cons_append]
    refine withFollowers_append_cons before leads (List.forall_mem_append.mpr ⟨all, ?_⟩)
    exact List.forall_mem_singleton.mpr follows

theorem mem_of_mem_withFollowers {xs : List σ} {entry : σ × List σ}
    (member : entry ∈ withFollowers isFollower xs) :
    entry.1 ∈ xs ∧ ∀ x ∈ entry.2, x ∈ xs := by
  induction xs with
  | nil => cases member
  | cons x rest ih =>
      unfold withFollowers at member
      split at member
      · exact ⟨List.mem_cons_of_mem x (ih member).1,
          fun y follows => List.mem_cons_of_mem x ((ih member).2 y follows)⟩
      · rcases List.mem_cons.mp member with rfl | later
        · exact ⟨List.mem_cons_self, fun y follows =>
            List.mem_cons_of_mem x ((List.takeWhile_sublist _).mem follows)⟩
        · exact ⟨List.mem_cons_of_mem x (ih later).1,
            fun y follows => List.mem_cons_of_mem x ((ih later).2 y follows)⟩

end RhythmChart
