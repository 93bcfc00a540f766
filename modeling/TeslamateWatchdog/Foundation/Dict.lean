/-
Python dictionaries as lists of members.  A key keeps the place of its first
assignment and the value of its last.
-/
import Mathlib.Data.List.Induction
import Mathlib.Data.List.Nodup

namespace Foundation

namespace Dict

universe u

variable {α : Type u} {members : List (String × α)} {key other : String}
  {value : α}

/-- `members[key] = value`. -/
def assign (members : List (String × α)) (key : String) (value : α) :
    List (String × α) :=
  if key ∈ members.map Prod.fst then
    members.map fun member => if member.1 = key then (key, value) else member
  else members ++ [(key, value)]

/-- The members assigned in order. -/
def ofMembers (members : List (String × α)) : List (String × α) :=
  members.foldl (fun dict member => assign dict member.1 member.2) []

theorem keys_assign (members : List (String × α)) (key : String) (value : α) :
    (assign members key value).map Prod.fst =
      if key ∈ members.map Prod.fst then members.map Prod.fst
      else members.map Prod.fst ++ [key] := by
  unfold assign
  split
  · rw [List.map_map]
    refine List.map_congr_left fun member _ => ?_
    by_cases hkey : member.1 = key <;> simp [hkey]
  · simp

theorem nodup_assign (hnodup : (members.map Prod.fst).Nodup) (key : String)
    (value : α) : ((assign members key value).map Prod.fst).Nodup := by
  rw [keys_assign]
  split
  · exact hnodup
  · rename_i hkey
    rw [← List.concat_eq_append]
    exact hnodup.concat hkey

theorem foldl_assign_nodup {dict : List (String × α)}
    (hnodup : (dict.map Prod.fst).Nodup) (members : List (String × α)) :
    ((members.foldl (fun dict member => assign dict member.1 member.2)
      dict).map Prod.fst).Nodup := by
  induction members generalizing dict with
  | nil => exact hnodup
  | cons member rest ih => exact ih (nodup_assign hnodup _ _)

theorem nodup_ofMembers (members : List (String × α)) :
    ((ofMembers members).map Prod.fst).Nodup :=
  @foldl_assign_nodup α [] List.nodup_nil members

theorem ofMembers_concat (members : List (String × α)) (key : String)
    (value : α) : ofMembers (members ++ [(key, value)]) =
      assign (ofMembers members) key value := by
  simp [ofMembers]

/-- Whatever is assigned in what order, every value is one of those given. -/
theorem mem_ofMembers {member : String × α}
    (hmember : member ∈ ofMembers members) : member ∈ members := by
  induction members using List.reverseRecOn with
  | nil => cases hmember
  | append_singleton rest last ih =>
      rw [ofMembers_concat rest last.1 last.2, assign] at hmember
      rw [List.mem_append, List.mem_singleton]
      split at hmember
      · obtain ⟨old, hold, heq⟩ := List.mem_map.mp hmember
        by_cases hkey : old.1 = last.1
        · rw [if_pos hkey] at heq
          exact .inr heq.symm
        · rw [if_neg hkey] at heq
          exact .inl (ih (heq ▸ hold))
      · rw [List.mem_append, List.mem_singleton] at hmember
        exact hmember.imp_left ih

/-- Members with different keys are the dictionary as they are. -/
theorem ofMembers_of_nodup (hnodup : (members.map Prod.fst).Nodup) :
    ofMembers members = members := by
  induction members using List.reverseRecOn with
  | nil => rfl
  | append_singleton rest member ih =>
      rw [List.map_append, List.nodup_append] at hnodup
      obtain ⟨hrest, -, hnew⟩ := hnodup
      rw [ofMembers_concat, ih hrest, assign, if_neg]
      intro hold
      exact hnew _ hold _ (List.mem_singleton_self _) rfl

theorem lookup_eq_none_iff :
    members.lookup key = none ↔ key ∉ members.map Prod.fst := by
  induction members with
  | nil => simp
  | cons member rest ih =>
      rw [List.lookup_cons]
      by_cases hkey : key = member.1
      · simp [hkey]
      · simp [hkey, ih, beq_false_of_ne hkey]

theorem lookup_assign (members : List (String × α)) (key other : String)
    (value : α) : (assign members key value).lookup other =
      if other = key then some value else members.lookup other := by
  unfold assign
  split
  · rename_i hkey
    induction members with
    | nil => simp at hkey
    | cons member rest ih =>
        rw [List.map_cons, List.lookup_cons, List.lookup_cons]
        by_cases hmember : member.1 = key
        · rw [if_pos hmember]
          by_cases hother : other = key
          · simp [hother]
          · have hrest : (rest.map fun member =>
                if member.1 = key then (key, value) else member).lookup other =
                rest.lookup other := by
              by_cases hlater : key ∈ rest.map Prod.fst
              · rw [ih hlater, if_neg hother]
              · refine congrArg (List.lookup other) ?_
                refine (List.map_congr_left fun entry hentry => ?_).trans
                  (List.map_id _)
                refine if_neg fun heq => hlater ?_
                exact heq ▸ List.mem_map_of_mem hentry
            simp [hother, hmember, hrest, beq_false_of_ne hother]
        · have hlater : key ∈ rest.map Prod.fst := by
            rcases List.mem_cons.mp hkey with heq | hrest
            · exact absurd heq.symm hmember
            · exact hrest
          rw [if_neg hmember, ih hlater]
          by_cases hother : other = member.1
          · simp [hother, hmember]
          · simp [beq_false_of_ne hother]
  · rename_i hkey
    rw [List.lookup_append]
    by_cases hother : other = key
    · rw [if_pos hother, hother, lookup_eq_none_iff.mpr hkey]
      simp
    · simp [hother, List.lookup_cons, beq_false_of_ne hother]

/-- The last assignment to a key wins. -/
theorem lookup_ofMembers (members : List (String × α)) (key : String) :
    (ofMembers members).lookup key = members.reverse.lookup key := by
  induction members using List.reverseRecOn with
  | nil => rfl
  | append_singleton rest member ih =>
      rw [ofMembers_concat rest member.1 member.2, lookup_assign, ih,
        List.reverse_append, List.reverse_singleton, List.singleton_append,
        List.lookup_cons]
      by_cases hkey : key = member.1
      · simp [hkey]
      · simp [hkey, beq_false_of_ne hkey]

end Dict

end Foundation
