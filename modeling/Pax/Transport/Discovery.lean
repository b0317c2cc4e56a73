import Pax.Framework.Selection
import Pax.Transport.Backend

/-!
# The loop of a discovery

`discover` of the backends on real radios: go through what was found, report and keep what the
filter accepts, and stop once there is as much as the limit says. The backends have the same loop
over their own states, so it is written here with the way in which a device is reported as a
parameter.

What the loop keeps is the selection `keepAfter` of `Pax.Framework.Selection`, and it reports just
what it keeps (`discoverLoop_spec`). In what this differs from the selection of the mock is said in
`Pax.Transport.DiscoverAlike`.
-/

namespace Pax

open Selection (full keepAfter)

variable {σ : Type}

/-- Go through what was found, with what is kept so far. -/
def discoverLoop (accepts : DeviceInfo → Bool) (limit : Option ℕ) (report : DeviceInfo → σ → σ) :
    List DeviceInfo → (out : List DeviceInfo) → σ → List DeviceInfo × σ
  | [], out, s => (out, s)
  | info :: infos, out, s =>
    if ¬ accepts info then discoverLoop accepts limit report infos out s
    else
      let s := report info s
      let out := out ++ [info]
      -- the limit is checked once the device has been kept
      if full limit out then (out, s) else discoverLoop accepts limit report infos out s

/-- The report of a device, as an entry of the event log. -/
def DeviceInfo.discovered (info : DeviceInfo) : Label := (info.id, .deviceDiscovered info.rssi)

/-- **What the loop keeps and what it reports.** -/
theorem discoverLoop_spec {β : Type} {accepts : DeviceInfo → Bool} {limit : Option ℕ}
    {report : DeviceInfo → σ → σ} (log : σ → List β) (entry : DeviceInfo → β)
    (hreport : ∀ info s, log (report info s) = log s ++ [entry info]) (infos out : List DeviceInfo)
    (s : σ) :
    (discoverLoop accepts limit report infos out s).1 = keepAfter accepts limit infos out ∧
      ∃ kept, keepAfter accepts limit infos out = out ++ kept ∧
        log (discoverLoop accepts limit report infos out s).2 = log s ++ kept.map entry := by
  -- On the devices: one is kept and reported, up to the limit, or it is passed over.
  induction infos generalizing out s with
  | nil => exact ⟨rfl, [], (List.append_nil _).symm, (List.append_nil _).symm⟩
  | cons info infos ih =>
    rw [discoverLoop, keepAfter]
    by_cases haccepts : accepts info = true
    · rw [if_neg (not_not_intro haccepts), if_pos haccepts]
      dsimp only
      by_cases hfull : full limit (out ++ [info]) = true
      · rw [if_pos hfull, if_pos hfull]
        exact ⟨rfl, [info], rfl, hreport info s⟩
      · rw [if_neg hfull, if_neg hfull]
        obtain ⟨hout, kept, hkept, hlog⟩ := ih (out ++ [info]) (report info s)
        refine ⟨hout, info :: kept, ?_, ?_⟩
        · rw [hkept, List.append_assoc, List.singleton_append]
        · rw [hlog, hreport, List.append_assoc, List.singleton_append, List.map_cons]
    · rw [if_pos haccepts, if_neg haccepts]
      exact ih out s

/-- What the loop keeps and reports from its beginning, where nothing has been kept. -/
theorem discoverLoop_nil {β : Type} {accepts : DeviceInfo → Bool} {limit : Option ℕ}
    {report : DeviceInfo → σ → σ} (log : σ → List β) (entry : DeviceInfo → β)
    (hreport : ∀ info s, log (report info s) = log s ++ [entry info]) (infos : List DeviceInfo)
    (s : σ) :
    ∃ s', discoverLoop accepts limit report infos [] s = (keepAfter accepts limit infos [], s') ∧
      log s' = log s ++ (keepAfter accepts limit infos []).map entry := by
  obtain ⟨hout, kept, hkept, hlog⟩ := discoverLoop_spec log entry hreport infos [] s
  rw [List.nil_append] at hkept
  refine ⟨(discoverLoop accepts limit report infos [] s).2, ?_, ?_⟩
  · rw [← hout]
  · rw [hlog, hkept]

end Pax
