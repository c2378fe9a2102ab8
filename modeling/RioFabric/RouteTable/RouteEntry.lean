import RioFabric.Libdid.Allocator
import RioFabric.RouteTable.Program

/-!
# Route entries of a switch

`mpsw_drv_set_route_entry` and `mpsw_drv_get_route_entry` for an RXS switch.  The driver keeps
one routing table for all ports together and one for each port.  An entry is set by
`rxs_rio_rt_change_rte` and `rxs_rio_rt_set_changed`, and got by `rxs_rio_rt_probe`, which
looks the destination ID up in a table and then asks the ports of the route whether they
would discard packets.
-/

namespace RioFabric.RouteTable

open Libdid

/-- `rio_rt_disc_reason_t`. -/
inductive RioRtDiscReason where
  | discNot | rtInvalid | deliberately
  | portUnavail | portPwdn | portFail | portNoLp | portLkoutOrDis | portInOutDis
  | mcEmpty | mcOneBit | mcMultMasks
  | dfltPtInvalid | dfltPtDeliberately
  | dfltPtUnavail | dfltPtPwdn | dfltPtFail | dfltPtNoLp | dfltPtLkoutOrDis | dfltPtInOutDis
  | impSpec | probeAbort
  deriving DecidableEq, Repr

/-- The fields of `rio_pc_one_port_config_t` that a probe looks at. -/
structure RioPcOnePortConfig where
  portAvailable : Bool
  poweredUp : Bool
  xmitterDisable : Bool
  portLockout : Bool
  nmtcXferEnable : Bool

/-- The fields of `rio_pc_one_port_status_t` that a probe looks at. -/
structure RioPcOnePortStatus where
  portOk : Bool
  portError : Bool

/-- What a probe reads from the device, and how the accesses end.  `rxs_rio_pc_get_config` and
`rxs_rio_pc_get_status` only read registers, none of them a routing register. -/
structure ProbeReads where
  pktTimeLive : Except Nat (BitVec 32)
  ftypeFilt : Nat → Except Nat (BitVec 32)
  pcGetConfig : Nat → Except RioRc RioPcOnePortConfig
  pcGetStatus : Nat → Except RioRc RioPcOnePortStatus
  impSpecCtl : Nat → Except Nat (BitVec 32)
  plmStat : Nat → Except Nat (BitVec 32)

/-- `rio_rt_probe_in_t`. -/
structure RioRtProbeIn where
  probeOnPort : Nat
  tt : Tt
  destId : Nat
  rt : RioRtState

/-- `rio_rt_probe_out_t`, less the trace function that RXS does not support. -/
structure RioRtProbeOut where
  impRc : ImpRc
  validRoute : Bool
  routingTableValue : PeRtVal
  defaultRoute : PeRtVal
  filterFunctionActive : Bool
  timeToLiveActive : Bool
  mcastPorts : Nat → Bool
  reasonForDiscard : RioRtDiscReason

/-- The output as a probe begins; the default route is not written yet. -/
def RioRtProbeOut.cleared : RioRtProbeOut where
  impRc := .rioSuccess
  validRoute := false
  routingTableValue := BitVec.ofNat 32 rioAllPorts
  defaultRoute := 0
  filterFunctionActive := false
  timeToLiveActive := false
  mcastPorts := fun _ => false
  reasonForDiscard := .probeAbort

/-- The route is no route. -/
def RioRtProbeOut.discard (out : RioRtProbeOut) (reason : RioRtDiscReason) : RioRtProbeOut :=
  { out with validRoute := false, reasonForDiscard := reason }

section

variable (devInfo : DarDevInfo)

def rxsChkDomRteReg (val : PeRtVal) : Bool :=
  (rxsChkAndCorrRtv devInfo ⟨val, false⟩ true false).changed

def rxsChkDevRteReg (val : PeRtVal) : Bool :=
  (rxsChkAndCorrRtv devInfo ⟨val, false⟩ false false).changed

/-- The ports other than the probed one that a mask has. -/
def otherMcPort (probeOnPort : Nat) (mcMask : BitVec 32) (bit : Nat) :
    Bool :=
  bit < devInfo.numRxsPorts && bit ≠ probeOnPort && mcMask.getLsbD bit

def rxsCheckMulticastRouting (inParms : RioRtProbeIn)
    (out : RioRtProbeOut) (rte : PeRtVal) : RioRtProbeOut :=
  match rioRtvGetMcMsk rte with
  | none => out.discard .mcMultMasks
  | some mcIdx =>
    let mc := inParms.rt.mcMasks mcIdx
    let legalPorts := BitVec.ofNat 32 (2 ^ devInfo.numRxsPorts) - 1
    if !mc.inUse then out.discard .mcEmpty
    else if mc.mcMask &&& legalPorts = 0 then out.discard .mcEmpty
    else
      let out :=
        { out with
          mcastPorts := fun bit =>
            if bit < devInfo.numRxsPorts ∧ bit ≠ inParms.probeOnPort then
              otherMcPort devInfo inParms.probeOnPort mc.mcMask bit
            else out.mcastPorts bit }
      -- a packet does not go out of the port it came from
      if (List.range devInfo.numRxsPorts).any
          (otherMcPort devInfo inParms.probeOnPort mc.mcMask) then out
      else out.discard .mcOneBit

end

def rioRteVal (rte : PeRtVal) : PeRtVal := rte &&& 0x3FF

/-- `rxs_check_routing` once the table has given a value. -/
def checkRoute (devInfo : DarDevInfo) (inParms : RioRtProbeIn) (out : RioRtProbeOut)
    (rte : PeRtVal) : RioRtProbeOut :=
  let out :=
    { out with routingTableValue := rte, validRoute := true, reasonForDiscard := .discNot }
  if rte = rioRteDrop then out.discard .deliberately
  else
    let dfltPort := rioRteVal rte = rioRteDfltPort
    if dfltPort ∧ rxsChkDfltRteReg devInfo out.defaultRoute then out.discard .dfltPtInvalid
    else if dfltPort ∧ out.defaultRoute = rioRteDrop then out.discard .dfltPtDeliberately
    else
      let rte := if dfltPort then out.defaultRoute else rte
      if rioRtvIsMcMsk rte then rxsCheckMulticastRouting devInfo inParms out rte else out

/-- The part of `rxs_check_routing` that looks at the device table. -/
def checkDevRoute (devInfo : DarDevInfo) (inParms : RioRtProbeIn) (out : RioRtProbeOut) :
    RioRtProbeOut :=
  let rte := (inParms.rt.devTable (devIdx inParms.destId)).rteVal
  if rxsChkDevRteReg devInfo rte then out.discard .rtInvalid
  else checkRoute devInfo inParms out rte

def rxsCheckRouting (devInfo : DarDevInfo) (inParms : RioRtProbeIn) (out : RioRtProbeOut) :
    RioRtProbeOut :=
  match inParms.tt with
  | .ttDev8 => checkDevRoute devInfo inParms out
  | .ttDev16 =>
    let rte := (inParms.rt.domTable (domIdx inParms.destId)).rteVal
    if rxsChkDomRteReg devInfo rte then out.discard .rtInvalid
    else if rioRteVal rte = rioRteLvlG0 then checkDevRoute devInfo inParms out
    else checkRoute devInfo inParms out rte

/-- The reason that a port has to discard packets, in the order of the checks. -/
def portDiscardReason (cfg : RioPcOnePortConfig) (stat : RioPcOnePortStatus) (dfltPort : Bool) :
    Option RioRtDiscReason :=
  if !cfg.portAvailable then some (if dfltPort then .dfltPtUnavail else .portUnavail)
  else if !cfg.poweredUp then some (if dfltPort then .dfltPtPwdn else .portPwdn)
  else if !stat.portOk then
    if cfg.xmitterDisable then some (if dfltPort then .dfltPtLkoutOrDis else .portLkoutOrDis)
    else some (if dfltPort then .dfltPtNoLp else .portNoLp)
  else if stat.portError then some (if dfltPort then .dfltPtFail else .portFail)
  else if cfg.portLockout then some (if dfltPort then .dfltPtLkoutOrDis else .portLkoutOrDis)
  else if !cfg.nmtcXferEnable then some (if dfltPort then .dfltPtInOutDis else .portInOutDis)
  else none

/-- The probe gives up at an access. -/
def RioRtProbeOut.abort (out : RioRtProbeOut) (pt : Nat) : RioRtProbeOut :=
  { out with reasonForDiscard := .probeAbort, impRc := .rtProbe pt }

/-- The loopback bits of `RXS_PLM_SPX_IMP_SPEC_CTL`. -/
def lpbkMask : BitVec 32 := 0x10000000 ||| 0x00800000

/-- `RXS_PLM_SPX_STAT_PBM_FATAL` and `RXS_PLM_SPX_STAT_MAX_DENIAL`. -/
def plmStatFatal : BitVec 32 := 0x04000000 ||| 0x80000000

/-- `rxs_check_port_for_discard` before its exit. -/
def checkPort (reads : ProbeReads) (devInfo : DarDevInfo) (out : RioRtProbeOut) (port : Nat)
    (dfltPort : Bool) : RioRc × RioRtProbeOut :=
  if devInfo.numRxsPorts ≤ port then
    (.rioSuccess, { out.abort 0x30 with validRoute := false })
  else
    match reads.ftypeFilt port with
    | .error code => (.regError code, out.abort 0x58)
    | .ok ctlData =>
      let out :=
        { out with filterFunctionActive := out.filterFunctionActive || ctlData ≠ 0 }
      match reads.pcGetConfig port with
      | .error rc => (rc, out.abort 0x38)
      | .ok cfg =>
        match reads.pcGetStatus port with
        | .error rc => (rc, out.abort 0x40)
        | .ok stat =>
          match portDiscardReason cfg stat dfltPort with
          | some reason => (.rioSuccess, { out with reasonForDiscard := reason })
          | none =>
            match reads.impSpecCtl port with
            | .error code => (.regError code, out.abort 0x48)
            | .ok ctlData =>
              if lpbkMask &&& ctlData ≠ 0 then
                (.rioSuccess, { out with reasonForDiscard := .impSpec })
              else
                match reads.plmStat port with
                | .error code => (.regError code, out.abort 0x50)
                | .ok ctlData =>
                  if ctlData &&& plmStatFatal ≠ 0 then
                    (.rioSuccess, { out with reasonForDiscard := .impSpec })
                  else (.rioSuccess, out)

def rxsCheckPortForDiscard (reads : ProbeReads) (devInfo : DarDevInfo) (out : RioRtProbeOut)
    (port : Nat) (dfltPort : Bool) : RioRc × RioRtProbeOut :=
  let checked := checkPort reads devInfo out port dfltPort
  if checked.2.reasonForDiscard ≠ .discNot then
    (checked.1, { checked.2 with validRoute := false })
  else checked

/-- The first loop of `rxs_check_for_discard`: ports that would discard leave the mask. -/
def checkMcastPorts (reads : ProbeReads) (devInfo : DarDevInfo) (probeOnPort : Nat) :
    List Nat → RioRtProbeOut → RioRc × RioRtProbeOut
  | [], out => (.rioSuccess, out)
  | port :: ports, out =>
    if port = probeOnPort ∨ out.mcastPorts port = false then
      checkMcastPorts reads devInfo probeOnPort ports out
    else
      let checked :=
        rxsCheckPortForDiscard reads devInfo { out with validRoute := true } port false
      if checked.1 ≠ .rioSuccess then checked
      else
        checkMcastPorts reads devInfo probeOnPort ports
          (if checked.2.validRoute then checked.2
          else { checked.2 with mcastPorts := Function.update checked.2.mcastPorts port false })

def rxsCheckForDiscard (reads : ProbeReads) (devInfo : DarDevInfo) (probeOnPort : Nat)
    (out : RioRtProbeOut) : RioRc × RioRtProbeOut :=
  let dfltPort := out.routingTableValue = rioRteDfltPort
  let rte := if dfltPort then out.defaultRoute else out.routingTableValue
  if rioRtvIsPort rte then
    rxsCheckPortForDiscard reads devInfo out (rioRteIdx rte).val dfltPort
  else
    let ports := List.range devInfo.numRxsPorts
    let checked := checkMcastPorts reads devInfo probeOnPort ports out
    (checked.1, { checked.2 with validRoute := ports.any checked.2.mcastPorts })

def rxsRioRtProbe (reads : ProbeReads) (devInfo : DarDevInfo) (inParms : RioRtProbeIn) :
    RioRc × RioRtProbeOut :=
  let out := RioRtProbeOut.cleared
  if devInfo.numRxsPorts ≤ inParms.probeOnPort ∧ inParms.probeOnPort ≠ rioAllPorts then
    (.rioErrInvalidParameter, { out with impRc := .rtProbe 0x11 })
  else if inParms.tt = .ttDev8 ∧ inParms.destId > 0xFF then
    (.rioErrInvalidParameter, { out with impRc := .rtProbe 0x12 })
  else
    match reads.pktTimeLive with
    | .error code => (.regError code, { out with impRc := .rtProbe 0x20 })
    | .ok regVal =>
      let out :=
        rxsCheckRouting devInfo inParms
          { out with
            timeToLiveActive := regVal &&& 0xFFFF0000 ≠ 0
            defaultRoute := inParms.rt.defaultRoute }
      if out.validRoute then rxsCheckForDiscard reads devInfo inParms.probeOnPort out
      else (.rioSuccess, out)

def rioMaxPorts : Nat := 24

/-- The part of `struct mpsw_drv_private_data` that is read here, for an RXS device. -/
structure MpswDrvPrivateData where
  devHValid : Bool
  devH : DarDevInfo
  gRt : RioRtState
  pprt : Fin rioMaxPorts → RioRtState

/-- A switch: what the driver keeps for it, if anything, and its routing registers. -/
structure Switch where
  privateData : Option MpswDrvPrivateData
  hw : RxsHw

/-- `mpsw_drv_get_route_entry`; `none` is failure. -/
def mpswDrvGetRouteEntry (reads : ProbeReads) (switch : Switch) (port : Nat) (did : Did) :
    Option PeRtVal :=
  match switch.privateData with
  | none => none
  | some pDat =>
    if !pDat.devHValid then none
    else
      let probed := rxsRioRtProbe reads pDat.devH ⟨port, .ttDev8, did.value, pDat.gRt⟩
      if probed.1 ≠ .rioSuccess then none else some probed.2.routingTableValue

/-- The table that `mpsw_drv_set_route_entry` changes. -/
def MpswDrvPrivateData.table (pDat : MpswDrvPrivateData) (port : Nat) : Option RioRtState :=
  if port = rioAllPorts then some pDat.gRt
  else if inRange : port < rioMaxPorts then some (pDat.pprt ⟨port, inRange⟩)
  else none

/-- Another content for that table. -/
def MpswDrvPrivateData.setTable (pDat : MpswDrvPrivateData) (port : Nat) (rt : RioRtState) :
    MpswDrvPrivateData :=
  if port = rioAllPorts then { pDat with gRt := rt }
  else { pDat with pprt := fun other => if other.val = port then rt else pDat.pprt other }

/-- `mpsw_drv_set_route_entry`: whether it succeeds, and the switch it leaves. -/
def mpswDrvSetRouteEntry (bus : RegBus) (switch : Switch) (port : Nat) (did : Did)
    (rtVal : PeRtVal) : Bool × Switch :=
  match switch.privateData with
  | none => (false, switch)
  | some pDat =>
    if !pDat.devHValid then (false, switch)
    else
      match pDat.table port with
      | none => (false, switch)
      | some rt =>
        -- `chg_in.idx` has eight bits, and `chg_in.dom_entry` is 0
        let chg := rxsRioRtChangeRte pDat.devH rt false (devIdx did.value) rtVal
        if chg.1.1 ≠ .rioSuccess then
          (false, { switch with privateData := some (pDat.setTable port chg.2) })
        else
          match (rxsRioRtSetChanged pDat.devH bus port).run ⟨chg.2, switch.hw⟩ with
          | .ok _ set => (true, ⟨some (pDat.setTable port set.rt), set.hw⟩)
          | .error _ set => (false, ⟨some (pDat.setTable port set.rt), set.hw⟩)

end RioFabric.RouteTable
