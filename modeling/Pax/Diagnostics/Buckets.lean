import Pax.Diagnostics.Metrics
import Pax.Framework.Text

/-!
# Buckets and their labels

The keys that `SplitBy::key` gives to events are texts, and two sources of events must not be
counted in one bucket.

The label of a controller is the difficult one. It is put together from a vendor, a model string
that can be anything, and a family. A vendor followed by a space is never the start of another one
(`code_prefixFree`), and a family in parentheses never the end of another (`familyCode_suffixFree`),
so that the label can be taken apart from both sides (`label_injective`).

The other dimensions have finitely many labels, which are compared with each other, or the address
of a peer. `key_eq_iff` says of every dimension that events share a bucket if and only if they agree
in what the dimension stands for.
-/

namespace Pax

open Text

/-! ### Vendors -/

namespace CompanyId

/-- The curated table, as a list: what is decided for all vendors is decided by going through it. -/
def names : List (UInt16 × String) := [(0x0000, "Ericsson Technology Licensing"),
  (0x0002, "Intel Corp."), (0x000A, "Cambridge Silicon Radio"), (0x000F, "Broadcom Corporation"),
  (0x001D, "Qualcomm"), (0x004C, "Apple, Inc."), (0x0059, "Nordic Semiconductor ASA"),
  (0x005D, "Realtek Semiconductor"), (0x0131, "Cypress Semiconductor")]

variable {c c' : CompanyId} {n : String}

theorem mem_names (h : c.name = some n) : (c.id, n) ∈ names := by
  rw [name] at h
  split at h <;> cases h <;> simp_all [names]

/-- What a label starts with: the vendor, and the space that the source puts behind it. -/
def code (c : CompanyId) : List Char := c.display.toList ++ [' ']

theorem hex4_injective : Function.Injective hex4 := by
  intro n m h
  have hlist : (hex4 n).toList = (hex4 m).toList := congrArg String.toList h
  simp only [hex4, String.toList_ofList, List.cons.injEq] at hlist
  obtain ⟨h₃, h₂, h₁, h₀, -⟩ := hlist
  have hn := n.toNat_lt
  have hm := m.toNat_lt
  have h₃ := hexDigit_inj _ (by omega) _ (by omega) h₃
  have h₂ := hexDigit_inj _ (by omega) _ (by omega) h₂
  have h₁ := hexDigit_inj _ (by omega) _ (by omega) h₁
  have h₀ := hexDigit_inj _ (by omega) _ (by omega) h₀
  apply UInt16.toNat_inj.mp
  omega

theorem code_of_some (h : c.name = some n) : c.code = n.toList ++ [' '] := by
  rw [code, display, h]

theorem code_of_none (h : c.name = none) : c.code = '0' :: 'x' :: (hex4 c.id).toList ++ [' '] := by
  rw [code, display, h]
  simp only [String.toList_append]
  rfl

/-- A text starts with the first character of what it starts with. -/
theorem head?_eq {cs ds : List Char} (h : cs <+: ds) (hne : cs ≠ []) :
    cs.head? = ds.head? := by
  obtain ⟨rest, rfl⟩ := h
  exact (List.head?_append_of_ne_nil cs hne).symm

/-- **Vendors can be told apart at the start of a label.** -/
theorem code_prefixFree : PrefixFree code := by
  have hnames : ∀ p ∈ names, ∀ q ∈ names,
      p.2.toList ++ [' '] <+: q.2.toList ++ [' '] → p.1 = q.1 := by decide
  -- no name starts with the digit zero
  have hletter : ∀ p ∈ names, (p.2.toList ++ [' ']).head? ≠ some '0' := by decide
  intro c c' h
  -- Two vendors of the table, two that are not in it, or one of each.
  cases hc : c.name with
  | some n =>
    rw [code_of_some hc] at h
    cases hc' : c'.name with
    | some n' =>
      rw [code_of_some hc'] at h
      exact congrArg mk (hnames _ (mem_names hc) _ (mem_names hc') h)
    | none =>
      rw [code_of_none hc'] at h
      exact absurd (head?_eq h (by simp)) (hletter _ (mem_names hc))
  | none =>
    rw [code_of_none hc] at h
    cases hc' : c'.name with
    | some n' =>
      rw [code_of_some hc'] at h
      exact absurd (head?_eq h (by simp)).symm (hletter _ (mem_names hc'))
    | none =>
      rw [code_of_none hc'] at h
      -- Two numbers in hexadecimal, which have the same width.
      have heq := h.eq_of_length (by simp [hex4])
      simp only [List.cons_append, List.cons.injEq, List.append_cancel_right_eq, true_and] at heq
      exact congrArg mk (hex4_injective (String.toList_inj.mp heq))

end CompanyId

/-! ### Controllers -/

namespace ControllerModel

/-- All families of controllers, in the order of their declaration. -/
def families : List ChipsetFamily :=
  [.appleCombo, .broadcom, .intel, .qualcomm, .realtek, .nordic, .csr, .virtual, .unknown]

theorem mem_families (f : ChipsetFamily) : f ∈ families := by cases f <;> decide

/-- A family in parentheses, as it ends the label of a controller. -/
def familyCode (f : ChipsetFamily) : List Char := " (".toList ++ f.display.toList ++ ")".toList

/-- **Families can be told apart at the end of a label.** -/
theorem familyCode_suffixFree : SuffixFree familyCode := by
  have hall : ∀ f ∈ families, ∀ g ∈ families, familyCode f <:+ familyCode g → f = g := by decide
  exact fun f g => hall f (mem_families f) g (mem_families g)

theorem toList_label (m : ControllerModel) :
    m.label.toList = m.manufacturer.code ++ m.model.toList ++ familyCode m.family := by
  simp [label, CompanyId.code, familyCode]

/-- Different controllers have different labels, whatever their models are called. -/
theorem label_injective : Function.Injective label := by
  rintro ⟨c, f, model⟩ ⟨c', f', model'⟩ h
  have hlist := congrArg String.toList h
  rw [toList_label, toList_label] at hlist
  obtain ⟨hfront, rfl⟩ := familyCode_suffixFree.append_inj hlist
  obtain ⟨rfl, hmodel⟩ := CompanyId.code_prefixFree.append_inj hfront
  exact congrArg _ (String.toList_inj.mp hmodel)

end ControllerModel

/-! ### The other dimensions -/

/-- All releases, as the table of the source lists them. -/
def CoreVersion.all : List CoreVersion := [.v1_0b, .v1_1, .v1_2, .v2_0, .v2_1, .v3_0, .v4_0, .v4_1,
  .v4_2, .v5_0, .v5_1, .v5_2, .v5_3, .v5_4, .v6_0]

theorem CoreVersion.mem_all (v : CoreVersion) : v ∈ all := by cases v <;> decide

theorem CoreVersion.name_injective : Function.Injective CoreVersion.name := by
  have hall : ∀ v ∈ all, ∀ v' ∈ all, v.name = v'.name → v = v' := by decide
  exact fun v v' => hall v v.mem_all v' v'.mem_all

/-- A transport can be told apart at the end of a text. -/
theorem Transport.display_suffixFree : SuffixFree fun t : Transport => t.display.toList := by
  intro t t' h
  cases t <;> cases t' <;> first | rfl | exact absurd h (by decide)

theorem Transport.display_injective : Function.Injective Transport.display := by
  intro t t' h
  have hlist : [] ++ t.display.toList = [] ++ t'.display.toList := congrArg String.toList h
  exact (Transport.display_suffixFree.append_inj hlist).2

theorem SpecContext.display_injective : Function.Injective SpecContext.display := by
  rintro ⟨v, t⟩ ⟨v', t'⟩ h
  have hlist := congrArg String.toList h
  simp only [SpecContext.display, String.toList_append] at hlist
  obtain ⟨hname, rfl⟩ := Transport.display_suffixFree.append_inj hlist
  rw [CoreVersion.name_injective (String.toList_inj.mp (List.append_cancel_right hname))]

theorem Standard802.dotted_injective : Function.Injective Standard802.dotted := by
  intro s s' h
  cases s <;> cases s' <;> first | rfl | exact absurd h (by decide)

theorem PortAuthState.display_injective : Function.Injective PortAuthState.display := by
  intro p p' h
  cases p <;> cases p' <;> first | rfl | exact absurd h (by decide)

/-- The labels of the kinds, in the order of the constructors. -/
def TransitEventKind.labels : List String := ["discovery-started", "device-discovered",
  "pairing-started", "pairing-completed", "pairing-failed", "connected", "disconnected",
  "transfer-started", "transfer-progress", "transfer-completed", "data-chunk", "warning", "error"]

theorem TransitEventKind.getElem?_labels (k : TransitEventKind) :
    labels[k.ctorIdx]? = some k.label := by
  cases k <;> rfl

/-- Each constructor has a label of its own. -/
theorem TransitEventKind.label_eq_iff {k k' : TransitEventKind} :
    k.label = k'.label ↔ k.ctorIdx = k'.ctorIdx := by
  have hnodup : labels.Nodup := by decide
  have hk := k.getElem?_labels
  have hk' := k'.getElem?_labels
  constructor
  · intro h
    obtain ⟨hlt, -⟩ := List.getElem?_eq_some_iff.mp hk
    exact (List.getElem?_inj hlt hnodup).mp (hk.trans (h ▸ hk'.symm))
  · intro h
    rw [h] at hk
    exact Option.some.inj (hk.symm.trans hk')

namespace SplitBy

/-- The events agree in the component that the dimension stands for. -/
def Same (d : SplitBy) (e e' : TransitEvent) : Prop :=
  match d with
  | .controller => e.origin.local' = e'.origin.local'
  | .spec => e.origin.spec = e'.origin.spec
  | .transport => e.origin.spec.transport = e'.origin.spec.transport
  | .radioStandard => e.origin.standards.radio = e'.origin.standards.radio
  | .portAuth => e.origin.standards.portAuth = e'.origin.standards.portAuth
  -- the constructors, whatever their fields
  | .eventKind => e.kind.ctorIdx = e'.kind.ctorIdx
  | .peer => e.origin.peer = e'.origin.peer

/-- **Buckets never conflate distinct sources**: events have the same key if and only if they agree
in the component that the dimension stands for. -/
theorem key_eq_iff (d : SplitBy) (e e' : TransitEvent) : d.key e = d.key e' ↔ d.Same e e' := by
  cases d with
  | controller => exact ControllerModel.label_injective.eq_iff
  | spec => exact SpecContext.display_injective.eq_iff
  | transport => exact Transport.display_injective.eq_iff
  | radioStandard => exact Standard802.dotted_injective.eq_iff
  | portAuth => exact PortAuthState.display_injective.eq_iff
  | eventKind => exact TransitEventKind.label_eq_iff
  | peer => exact DeviceId.display_injective.eq_iff

end SplitBy
end Pax
