import Mathlib.Tactic

/-!
# Specification and standards context

`CoreVersion`, `Transport` and `SpecContext` of `pax-core/src/spec.rs`, and `Standard802`,
`PortAuthState` and `StandardsProfile` of `pax-core/src/standards.rs`, each with the text
diagnostics group by.
-/

namespace Pax

/-- A released version of the Bluetooth Core Specification, oldest first. -/
inductive CoreVersion where
  | v1_0b | v1_1 | v1_2 | v2_0 | v2_1 | v3_0 | v4_0 | v4_1 | v4_2 | v5_0 | v5_1 | v5_2 | v5_3
  | v5_4 | v6_0
  deriving DecidableEq, Repr

/-- The marketing name, which `Display` prints. -/
def CoreVersion.name : CoreVersion → String
  | .v1_0b => "Bluetooth 1.0b"
  | .v1_1 => "Bluetooth 1.1"
  | .v1_2 => "Bluetooth 1.2"
  | .v2_0 => "Bluetooth 2.0 + EDR"
  | .v2_1 => "Bluetooth 2.1 + EDR"
  | .v3_0 => "Bluetooth 3.0 + HS"
  | .v4_0 => "Bluetooth 4.0"
  | .v4_1 => "Bluetooth 4.1"
  | .v4_2 => "Bluetooth 4.2"
  | .v5_0 => "Bluetooth 5.0"
  | .v5_1 => "Bluetooth 5.1"
  | .v5_2 => "Bluetooth 5.2"
  | .v5_3 => "Bluetooth 5.3"
  | .v5_4 => "Bluetooth 5.4"
  | .v6_0 => "Bluetooth 6.0"

/-- Which physical transport a link uses. -/
inductive Transport where
  | brEdr
  | le
  | dual
  deriving DecidableEq, Repr

/-- `Display` of a transport, the text under which its events are grouped. -/
def Transport.display : Transport → String
  | .brEdr => "BR/EDR"
  | .le => "LE"
  | .dual => "dual-mode"

/-- Which release, over which transport. -/
structure SpecContext where
  version : CoreVersion
  transport : Transport
  deriving DecidableEq, Repr

/-- `Display` of a spec context: the release and the transport. -/
def SpecContext.display (s : SpecContext) : String :=
  s.version.name ++ " over " ++ s.transport.display

/-- An IEEE 802 standard relevant to a Bluetooth deployment. -/
inductive Standard802 where
  | wpan80215_1
  | wpan80215_4
  | wlan80211
  | portAuth8021X
  deriving DecidableEq, Repr

/-- The designation with its dots, as the standard is quoted. -/
def Standard802.dotted : Standard802 → String
  | .wpan80215_1 => "802.15.1"
  | .wpan80215_4 => "802.15.4"
  | .wlan80211 => "802.11"
  | .portAuth8021X => "802.1X"

/-- The 802.1X authentication state of a bridge port. -/
inductive PortAuthState where
  | notApplicable
  | unauthenticated
  | authenticating
  | authenticated
  | failed
  deriving DecidableEq, Repr

/-- `Display` of a port-auth state, the text under which its events are grouped. -/
def PortAuthState.display : PortAuthState → String
  | .notApplicable => "n/a"
  | .unauthenticated => "unauthenticated"
  | .authenticating => "authenticating"
  | .authenticated => "authenticated"
  | .failed => "auth-failed"

/-- The standards context attached to a link. -/
structure StandardsProfile where
  radio : Standard802
  portAuth : PortAuthState
  deriving DecidableEq, Repr

/-- The profile of a Classic link: 802.15.1 radio, no port auth. -/
def StandardsProfile.bredrDefault : StandardsProfile := ⟨.wpan80215_1, .notApplicable⟩

end Pax
