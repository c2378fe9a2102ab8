import RioFabric.CpsPort.ResetScope
import RioFabric.Tsi57xPort.AccessPort

/-!
# What resets reach

A reset of a port is not to reset the link partner if that is not asked for, and is to leave the
port alone that registers are accessed through.
-/

namespace RioFabric.PortConfig

open Lib CpsPort Tsi57xPort

section ResetScope

variable {δ : Type} (cps : CpsDevice) (cpsDevice : RegDevice CpsPort.Reg δ) (cpsState : δ)
  (tsi57x : Tsi57xDevice)
  (scratchpad : RegisterFile Tsi57xPort.Reg × List (RegEvent Tsi57xPort.Reg) → Nat → BitVec 32)
  (magic : ControlSymbol.CsBytes) (start : RegisterFile Tsi57xPort.Reg)
  (inParms : PcResetPortIn) (clrParms : PcClrErrsIn) (impRc : Nat)

end ResetScope

/-- Port 0 is to be reset without its link partner, in band; the accesses go through port 1. -/
def resetPort0 : PcResetPortIn := ⟨0, false, 1, false, false⟩

/-- All registers hold zero, and no access fails. -/
def zeroFile {ρ : Type} : RegisterFile ρ := ⟨fun _ => 0, fun _ _ => 0⟩

theorem resetPort0_reaches :
    CpsPort.Reaches .cps1848 (registerFile store) zeroFile resetPort0 where
  port := .inr (by decide)
  access := .inr (by decide)
  quadCfg := ⟨0, rfl⟩
  other := .inr (by decide)

theorem resetPort0_not_spared :
    ¬Tsi57xPort.SparesAccess .tsi577 (fun _ _ => 0) resetPort0 0 zeroFile := by
  intro spares
  rcases spares rfl (by decide) rfl with alone | ends
  · exact alone.1 rfl
  · have goesOn : endsWith (fun _ _ => true) ((beforeCycle .tsi577 (logged (registerFile store))
        (fun _ _ => 0) resetPort0 0).run ⟨0, (zeroFile, [])⟩) := by
      decide +kernel
    obtain ⟨state, final, ran, -⟩ := exists_of_endsWith goesOn
    exact ends 0 (by decide) (by decide +kernel) (by decide +kernel) (by decide +kernel)
      state final ran

/-- Port 2 is to be reset with its link partner. -/
def resetPort2 : PcResetPortIn := ⟨2, false, 1, true, false⟩

theorem resetPort2_spares :
    Tsi57xPort.SparesAccess .tsi578 (fun _ _ => 0) resetPort2 0 zeroFile := by
  intro _ _ _
  have misses : ∀ pnum ∈ requestedPorts .tsi578 resetPort2.portNum, ¬Hits .tsi578 pnum 0 := by
    decide +kernel
  exact .inr fun pnum isMember _ _ hits => absurd hits (misses pnum isMember)

end RioFabric.PortConfig
