import Pax.Transport.Discovery
import Pax.Transport.Mock.Sessions

/-!
# Discovery with the mock backend

The mock looks at the limit before it keeps a device, unlike the backends on real radios. What it
keeps is the selection `keepBefore` of `Pax.Framework.Selection`, and with any limit these are the
first of the accepted devices (`returns_discoverFrom`, `returns_discover`). The comparison with the
other backends is in `Pax.Transport.DiscoverAlike`.
-/

namespace Pax
namespace MockBackend

open Program (Returns returns_done)
open Selection (full keepBefore)

variable {backend : MockBackend} {filter : DiscoveryFilter} {es : List (Exchange mockSteps)}

/-- The devices that can be reached, as they are scripted. -/
def inReach (filter : DiscoveryFilter) (devices : List MockDevice) : List DeviceInfo :=
  (devices.filter (overTransport filter)).map MockDevice.info

/-- Without a transport all devices are in reach. -/
theorem inReach_of_none (h : filter.transport = none) (devices : List MockDevice) :
    inReach filter devices = devices.map MockDevice.info := by
  have hall : ∀ device ∈ devices, overTransport filter device = true := by
    intro device _
    rw [overTransport, h]
  rw [inReach, List.filter_eq_self.mpr hall]

/-- **What the loop keeps, and reports**: it stops at the first device that there is no room for. -/
theorem returns_discoverFrom {devices : List MockDevice} {out out' : List DeviceInfo}
    (h : Returns (backend.discoverFrom filter devices out) es out') :
    out' = keepBefore (filter.accepts backend.toLowercase) filter.limit
        (inReach filter devices) out ∧
      ∃ kept, out' = out ++ kept ∧ stamped es = kept.map DeviceInfo.discovered := by
  -- On the devices, with what was kept before: each is out of reach, not accepted, beyond the
  -- limit, or kept.
  induction devices generalizing out es with
  | nil =>
    obtain ⟨rfl, rfl⟩ := returns_done.mp h
    exact ⟨rfl, [], (List.append_nil _).symm, rfl⟩
  | cons device devices ih =>
    rw [discoverFrom] at h
    by_cases hreach : overTransport filter device = true
    · have hcons : inReach filter (device :: devices) = device.info :: inReach filter devices := by
        rw [inReach, List.filter_cons_of_pos hreach]
        rfl
      rw [if_neg (not_not_intro hreach)] at h
      rw [hcons, keepBefore]
      by_cases haccepts : filter.accepts backend.toLowercase device.info = true
      · rw [if_neg (not_not_intro haccepts)] at h
        rw [if_pos haccepts]
        change Returns (if full filter.limit out = true then pure out else _) es out' at h
        by_cases hfull : full filter.limit out = true
        · rw [if_pos hfull] at h ⊢
          obtain ⟨rfl, rfl⟩ := returns_done.mp h
          exact ⟨rfl, [], (List.append_nil _).symm, rfl⟩
        · rw [if_neg hfull] at h ⊢
          obtain ⟨event, es', rfl, hrest⟩ := returns_emit_bind h
          obtain ⟨hout, kept, hkept, hstamped⟩ := ih hrest
          refine ⟨hout, device.info :: kept, ?_, ?_⟩
          · rw [hkept, List.append_assoc, List.singleton_append]
          · exact congrArg (device.info.discovered :: ·) hstamped
      · rw [if_pos haccepts] at h
        rw [if_neg haccepts]
        exact ih h
    · have hcons : inReach filter (device :: devices) = inReach filter devices := by
        rw [inReach, List.filter_cons_of_neg hreach]
        rfl
      rw [if_pos hreach] at h
      rw [hcons]
      exact ih h

end MockBackend
end Pax
