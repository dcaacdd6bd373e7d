import SessionManager.Router.Explicit
import SessionManager.Server

/-!
# The session a call names

A call that names a session has it checked twice: in its record, and in the view.  On one
state of the registry the two checks agree (`explicit_target_agrees`).
-/

namespace SessionManager

open Effect

/-- The session is registered and active, and lists a public tool of the name. -/
def Offers (reg : SessionRegistry) (session_id name : String) : Prop :=
  ∃ record, reg.inner.get session_id = some record ∧ record.state = .Active ∧
    ∃ tool ∈ record.tools, tool.name = name ∧ tool.visibility = .Public

theorem publishes_iff {record : SessionRecord} {name : String} :
    record.publishes name ↔ ∃ tool ∈ record.tools, tool.name = name ∧ tool.visibility = .Public := by
  refine exists_congr fun tool => and_congr_right fun _ => ?_
  rw [ToolDescriptor.publishes, Bool.and_eq_true, beq_iff_eq]
  refine and_congr_right fun _ => ?_
  cases tool.visibility with
  | Public => exact iff_of_true rfl rfl
  | Internal => exact iff_of_false (by decide) (by decide)

/-- A session offers what an enumeration of the registry publishes for it. -/
theorem offers_iff_published {reg : SessionRegistry} {snapshot : List SessionRecord}
    (keyed : reg.keyed) (enumerated : reg.enumerates snapshot) {session_id name : String} :
    Offers reg session_id name ↔ Published snapshot session_id name := by
  simp only [Offers, ← publishes_iff, Published, enumerated.mem keyed]
  constructor
  · rintro ⟨record, found, offered⟩
    obtain rfl := keyed _ _ found
    exact ⟨record, found, rfl, offered⟩
  · rintro ⟨record, found, rfl, offered⟩
    exact ⟨record, found, offered⟩

/-- The check of the record accepts what the session offers. -/
theorem validate_explicit_target_ok (now : Nat) (reg : SessionRegistry) (session_id name : String) :
    (validate_explicit_target session_id name).handle (RegOp.sequential now) reg =
      some (.ok (), reg) ↔ Offers reg session_id name := by
  simp only [Offers, ← publishes_iff]
  rw [validate_explicit_target, Prog.handle_perform]
  simp only [RegOp.sequential, RegOp.run, Option.bind_some]
  cases reg.inner.get session_id with
  | none =>
    refine iff_of_false (fun accepted => ?_) fun offered => ?_
    · cases accepted
    · obtain ⟨record, found, -⟩ := offered
      cases found
  | some record =>
    simp only [Option.some.injEq, exists_eq_left']
    by_cases active : record.state = .Active
    · rw [if_neg (not_not_intro active), and_iff_right active]
      by_cases publishes : record.publishes name
      · rw [if_neg (not_not_intro publishes)]
        exact iff_of_true rfl publishes
      · rw [if_pos publishes]
        exact iff_of_false (fun accepted => by cases accepted) publishes
    · rw [if_pos active]
      exact iff_of_false (fun accepted => by cases accepted) fun offered => active offered.1

/-- **The two checks of a named session agree, and neither leads to another session.** -/
theorem explicit_target_agrees {crates : Crates} {tools_cache : Option ToolsCacheStore}
    {reg : SessionRegistry} {snapshot : List SessionRecord} (reached : Reached tools_cache reg)
    (enumerated : reg.enumerates snapshot) (now : Nat) (session_id name : String) :
    ((validate_explicit_target session_id name).handle (RegOp.sequential now) reg =
        some (.ok (), reg) ↔
      ∃ resolved, resolve_published name (build_proxy_view crates snapshot) (some session_id) =
        .ok resolved) ∧
    ((∃ resolved, resolve_published name (build_proxy_view crates snapshot) (some session_id) =
        .ok resolved) ↔ Offers reg session_id name) ∧
    ∀ resolved, resolve_published name (build_proxy_view crates snapshot) (some session_id) =
      .ok resolved → resolved = { session_id, tool_name := name } := by
  have view : (∃ resolved, resolve_published name (build_proxy_view crates snapshot)
      (some session_id) = .ok resolved) ↔ Offers reg session_id name := by
    simp only [resolve_explicit, exists_eq_left, offers_iff_published reached.keyed enumerated]
  refine ⟨?_, view, fun resolved ok => (resolve_explicit.mp ok).1⟩
  rw [validate_explicit_target_ok, view]

/-- Of two sessions, one is named for a tool that both publish, and for its internal tool. -/
theorem mixed_clients_target_agrees :
    (∃ resolved, resolve_published "t" (build_proxy_view permissive_crates mixed_clients.inner.values)
        (some "s'") = .ok resolved) ∧
      ¬ ∃ resolved, resolve_published "feed"
        (build_proxy_view permissive_crates mixed_clients.inner.values) (some "s'") = .ok resolved := by
  have agrees := @explicit_target_agrees permissive_crates none mixed_clients _
    (two_clients_reached _ _) (.refl _) 0 "s'"
  have accepted : (validate_explicit_target "s'" "t").handle (RegOp.sequential 0) mixed_clients =
      some (.ok (), mixed_clients) := rfl
  have refused : (validate_explicit_target "s'" "feed").handle (RegOp.sequential 0) mixed_clients =
      some (.error (invalid_params "session 's'' does not publish tool 'feed'"), mixed_clients) := rfl
  refine ⟨(agrees "t").1.mp accepted, fun resolved => ?_⟩
  cases refused.symm.trans ((agrees "feed").1.mpr resolved)

end SessionManager
