import RioFabric.Dar.DevInfo
import RioFabric.Lib.Bits
import RioFabric.Lib.RegisterFile

/-!
# Register accesses

All accesses to registers of a device go through two routines.  They look into a cache first, and
leave the access to the driver of the device.  The Tsi57x and the Tsi721 have accesses of their own:
the one keeps copies of registers that cannot be read while the first port is powered down, the
other mends registers that do not comply with the specification.
-/

namespace RioFabric.Dar

open Lib

/-- A routine over the knowledge of a device and its registers; it returns the code of an access
that fails, or one of its own. -/
abbrev DarProgram (δ : Type) := EStateM Nat (Attached DarDevInfo δ)

section Basics

variable {δ : Type}

/-- Look at what is known of the device. -/
def getDev : DarProgram δ DarDevInfo := do
  let state ← get
  pure state.memory

/-- Change what is known of the device. -/
def modifyDev (change : DarDevInfo → DarDevInfo) : DarProgram δ Unit := modifyMemory change

end Basics

/-- `struct scrpad_info`. -/
structure ScrpadInfo where
  offset : BitVec 32
  rwMask : BitVec 32
  deriving DecidableEq

def maxDarScrpadIdx : Nat := 30

def tsi578MaxMcMasks : Nat := 8

def scrpadMaskIdx : Nat := tsi578MaxMcMasks

def scrpadEofOffset : BitVec 32 := 0xFFFFFFFF

def tsi578RioMcIdx (mask : Nat) : BitVec 32 := 0x10300 + 4 * BitVec.ofNat 32 mask

def tsi578RioMcMskx (mask : Nat) : BitVec 32 := 0x10320 + 4 * BitVec.ofNat 32 mask

def tsi578RioMcMaskCfg : BitVec 32 := 0x00000080

def tsi578RioMcDestidCfg : BitVec 32 := 0x00000084

def tsi578RioMcDestidAssoc : BitVec 32 := 0x00000088

/-- `TSI578_RIO_MC_MSKX_MC_MSK`. -/
def mcMskxMcMsk : BitVec 32 := 0xffff0000

/-- `TSI578_RIO_MC_IDX_MC_EN`. -/
def mcIdxMcEn : BitVec 32 := 0x80000000

/-- `TSI578_RIO_MC_IDX_LARGE_SYS`. -/
def mcIdxLargeSys : BitVec 32 := 0x40000000

def mcIdxMask : BitVec 32 := 0x0000ffff ||| mcIdxLargeSys ||| mcIdxMcEn

def mcMaskCfgMask : BitVec 32 := 0x00000001 ||| 0x00000070 ||| 0x00000f00 ||| 0x00070000

def mcDestidMask : BitVec 32 := 0x00ff0000 ||| 0xff000000 ||| 0x00000007

def mcAssocMask : BitVec 32 := 0x00000001 ||| 0x00000060 ||| 0x00000080

/-- The elements of `scratchpad_const` that are given. -/
def scratchpadGiven : List ScrpadInfo :=
  (List.range tsi578MaxMcMasks).map (fun mask => ⟨tsi578RioMcIdx mask, mcIdxMask⟩) ++
  (List.range tsi578MaxMcMasks).map (fun mask => ⟨tsi578RioMcMskx mask, mcMskxMcMsk⟩) ++
  [⟨0x0000006c, 0xffffffff⟩, ⟨0x00000078, 0x000000ff⟩, ⟨0x00000120, 0xffffff00⟩,
    ⟨0x00001028, 0x00008000 ||| 0x00ff0000 ||| 0xff000000⟩,
    ⟨0x0000100c, 0x00400000 ||| 0x00800000 ||| 0x08000000⟩, ⟨0x0000102c, 0xffff0000⟩,
    ⟨tsi578RioMcMaskCfg, mcMaskCfgMask⟩, ⟨tsi578RioMcDestidCfg, mcDestidMask⟩,
    ⟨tsi578RioMcDestidAssoc, mcAssocMask⟩, ⟨scrpadEofOffset, 0xFFFFFFFF⟩]

/-- `scratchpad_const`, whose other elements are zero. -/
def scratchpadConst (idx : Nat) : ScrpadInfo := scratchpadGiven[idx]?.getD ⟨0, 0⟩

/-- `RIO_MC_MSK_CFG_CMD`, with the commands. -/
def mcMskCfgCmd : BitVec 32 := 0x00000070

def mcMskCfgCmdAdd : BitVec 32 := 0x00000010

def mcMskCfgCmdDel : BitVec 32 := 0x00000020

def mcMskCfgCmdDelAll : BitVec 32 := 0x00000040

def mcMskCfgCmdAddAll : BitVec 32 := 0x00000050

/-- `RIO_MC_CON_OP_CMD`, with the commands. -/
def mcConOpCmd : BitVec 32 := 0x00000060

def mcConOpCmdDel : BitVec 32 := 0x00000040

def mcConOpCmdAdd : BitVec 32 := 0x00000060

/-- `RIO_MC_CON_OP_DEV16M`. -/
def mcConOpDev16M : BitVec 32 := 0x00000080

/-- A mask after a command: the cases of `tsi57x_WriteReg_mask_cfg`. -/
def maskAfter (cmd : BitVec 32) (port : Nat) (mask : BitVec 32) : BitVec 32 :=
  if cmd = mcMskCfgCmdAdd then mask ||| (1 : BitVec 32) <<< (port + 16)
  else if cmd = mcMskCfgCmdDel then mask &&& ~~~((1 : BitVec 32) <<< (port + 16))
  else if cmd = mcMskCfgCmdDelAll then mask &&& ~~~mcMskxMcMsk
  else if cmd = mcMskCfgCmdAddAll then mask ||| mcMskxMcMsk
  else mask

/-- An index after a command: the cases of `tsi57x_WriteReg_destid_assoc`. -/
def idxAfter (cmd destid : BitVec 32) (large : Bool) (idx : BitVec 32) : BitVec 32 :=
  if cmd = mcConOpCmdDel then 0
  else if cmd = mcConOpCmdAdd then
    (destid >>> 16) ||| mcIdxMcEn ||| (if large then mcIdxLargeSys else 0)
  else idx

def tsi57xWriteRegMaskCfg (writedata : BitVec 32) (scratchpad : Nat → BitVec 32) :
    Nat → BitVec 32 :=
  let slot := ((writedata &&& 0x00070000) >>> 16).toNat + scrpadMaskIdx
  let port := ((writedata &&& 0x0000ff00) >>> 8).toNat
  Function.update scratchpad slot
    (maskAfter (writedata &&& mcMskCfgCmd) port (scratchpad slot))

def tsi57xWriteRegDestidAssoc (idx : Nat) (scratchpad : Nat → BitVec 32) : Nat → BitVec 32 :=
  let slot := (scratchpad (idx - 1) &&& 0x0000ffff).toNat % 2 ^ 8
  Function.update scratchpad slot
    (idxAfter (scratchpad idx &&& mcConOpCmd) (scratchpad (idx - 1) &&& 0xffff0000)
      (scratchpad idx &&& mcConOpDev16M ≠ 0) (scratchpad slot))

/-- The scratchpad after a register that is at an index was written. -/
def scratchpadAfter (idx : Nat) (writedata : BitVec 32) (scratchpad : Nat → BitVec 32) :
    Nat → BitVec 32 :=
  let writedata := writedata &&& (scratchpadConst idx).rwMask
  let scratchpad := Function.update scratchpad idx writedata
  if (scratchpadConst idx).offset = tsi578RioMcMaskCfg then
    tsi57xWriteRegMaskCfg writedata scratchpad
  else if (scratchpadConst idx).offset = tsi578RioMcDestidAssoc then
    tsi57xWriteRegDestidAssoc idx scratchpad
  else scratchpad

/-- The indexes of an offset in the scratchpad, in order. -/
def scrpadIdxs (offset : BitVec 32) : List Nat :=
  (List.range maxDarScrpadIdx).filter fun idx => (scratchpadConst idx).offset = offset

section Accesses

variable {δ : Type} (device : RegDevice (BitVec 32) δ)

/-- `tsi57x_WriteReg`.  The register for associations is not at the first index. -/
def tsi57xWriteReg (offset writedata : BitVec 32) : DarProgram δ Unit := do
  regWrite device offset writedata id
  match (scrpadIdxs offset).head? with
  | some idx =>
    modifyDev fun dev => { dev with scratchpad := scratchpadAfter idx writedata dev.scratchpad }
    failIf (offset = tsi578RioMcDestidAssoc ∧ idx = 0) rioErrSwFailure
  | none => pure ()

/-- The registers for commands, which are not read from the scratchpad. -/
def scrpadCommands : List (BitVec 32) :=
  [tsi578RioMcDestidAssoc, tsi578RioMcMaskCfg, tsi578RioMcDestidCfg]

def tsi57xReadReg (offset : BitVec 32) : DarProgram δ (BitVec 32) := do
  if offset ∈ scrpadCommands then regRead device offset id
  else
    match (scrpadIdxs offset).getLast? with
    | some idx => do
        let dev ← getDev
        pure (dev.scratchpad idx)
    | none => regRead device offset id

/-- `tsi57x_init_scratchpad`, from an index on. -/
def initScratchpadFrom (idx : Nat) : Nat → DarProgram δ Unit
  | 0 => pure ()
  | left + 1 => do
      failIf ((scratchpadConst idx).offset = scrpadEofOffset) rioErrRegAccessFail
      let data ← regRead device (scratchpadConst idx).offset id
      modifyDev fun dev => { dev with scratchpad := Function.update dev.scratchpad idx data }
      initScratchpadFrom (idx + 1) left

def tsi57xInitScratchpad : DarProgram δ Unit := initScratchpadFrom device 0 maxDarScrpadIdx

def rioSwPortInf : BitVec 32 := 0x00000014

def tsi721SrRspTo : BitVec 32 := 0x00000124

def tsi721BaseId : BitVec 32 := 0x00000060

def tsi721IbDevid : BitVec 32 := 0x00060020

def tsi721PwCtl : BitVec 32 := 0x00010a04

def tsi721PwCtlPwcMode : BitVec 32 := 0x01000000

def tsi721ReadReg (offset : BitVec 32) : DarProgram δ (BitVec 32) := do
  if offset = rioSwPortInf then pure 0x00000100
  else if offset = tsi721SrRspTo then do
    let data ← regRead device offset id
    pure (data <<< 8)
  else if offset = tsi721PwCtl then do
    let data ← regRead device offset id
    pure (data &&& ~~~tsi721PwCtlPwcMode)
  else regRead device offset id

def tsi721WriteReg (offset writedata : BitVec 32) : DarProgram δ Unit := do
  if offset = tsi721SrRspTo then regWrite device offset (writedata >>> 8) id
  else if offset = tsi721BaseId then do
    regWrite device offset writedata id
    regWrite device tsi721IbDevid ((writedata &&& 0x00ff0000) >>> 16) id
  else if offset = tsi721PwCtl then
    regWrite device offset (writedata &&& ~~~tsi721PwCtlPwcMode) id
  else regWrite device offset writedata id

def darGetPoregIdx (dev : DarDevInfo) (offset : BitVec 32) : Option Nat :=
  (dev.poregs.getD []).findIdx? fun poreg => poreg.offset = offset

def familyRead (family : RioDriverFamily) (offset : BitVec 32) : DarProgram δ (BitVec 32) :=
  match family with
  | .rxs | .cps | .unknown => regRead device offset id
  | .tsi57x => tsi57xReadReg device offset
  | .tsi721 => tsi721ReadReg device offset
  | .uninitialized => throw rioErrSwFailure

def familyWrite (family : RioDriverFamily) (offset writedata : BitVec 32) : DarProgram δ Unit :=
  match family with
  | .rxs | .cps | .unknown => regWrite device offset writedata id
  | .tsi57x => tsi57xWriteReg device offset writedata
  | .tsi721 => tsi721WriteReg device offset writedata
  | .uninitialized => throw rioErrSwFailure

/-- `DARRegRead`.  A handle without a family is not valid. -/
def darRegRead (offset : BitVec 32) : DarProgram δ (BitVec 32) := do
  let dev ← getDev
  failIf (!dev.valid) darDbInvalidHandle
  match (dev.poregs.getD []).find? fun poreg => poreg.offset = offset with
  | some poreg => pure poreg.data
  | none => familyRead device dev.driverFamily offset

/-- Set the data of the first element with an offset. -/
def updatePoreg (dev : DarDevInfo) (offset data : BitVec 32) : DarDevInfo :=
  match darGetPoregIdx dev offset with
  | some idx => { dev with
      poregs := dev.poregs.map fun poregs => poregs.modify idx fun poreg => { poreg with data } }
  | none => dev

def darRegWrite (offset writedata : BitVec 32) : DarProgram δ Unit := do
  let dev ← getDev
  failIf (!dev.valid) darDbInvalidHandle
  familyWrite device dev.driverFamily offset writedata
  modifyDev fun dev => updatePoreg dev offset writedata

def darAddPoreg (offset data : BitVec 32) : DarProgram δ Unit := do
  let dev ← getDev
  match dev.poregs with
  | none => throw rioErrNullParmPtr
  | some poregs => do
      failIf (dev.poregsMax ≤ poregs.length) rioErrInsufficientResources
      modifyDev fun dev => { dev with poregs := some (poregs ++ [⟨offset, data⟩]) }

end Accesses

end RioFabric.Dar
