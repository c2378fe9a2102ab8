import RioFabric.Lib.WhileRules
import RioFabric.Libcfg.Config

/-!
# The configuration parser

`cfg.c`, from `strip_crlf` to `cfg_parse_file`.  A function that returns 1 stops with `failed`;
where its label `fail` calls `PARSE_ERR`, the error flag is set on the way.  The parser records
which index it uses for which array, and where its loops stand when they ask for more text.
An output parameter is not written when its function fails: every failure that is not ignored
sets the error flag, and a configuration with the flag set is not read any more.
-/

namespace RioFabric.Libcfg

open Lib Libct Libdid RouteTable

/-! ## State and events -/

/-- The arrays that are indexed with a value from the text or with a count. -/
inductive CfgArray where
  | mportInfo | eps | epPorts | sws | swPorts | cons | devids | rt | devTable | domTable | mcMasks
  deriving DecidableEq, Repr

/-- The declared size of an array. -/
abbrev CfgArray.size : CfgArray → Nat
  | .mportInfo => 4
  | .eps => 70
  | .epPorts => 1
  | .sws => 20
  | .swPorts => 24
  | .cons => 480
  | .devids | .rt => 3
  | .devTable | .domTable | .mcMasks => 256

/-- What is recorded of a run. -/
inductive CfgEvent where
  /-- An array is accessed. -/
  | access (array : CfgArray) (idx : Nat)
  /-- The text gives the number of a port of a switch. -/
  | swPort (port : Nat)
  /-- The text gives the number of a port of an endpoint whose device ID is wanted. -/
  | epPort (port : Nat)
  /-- `getline` is called. -/
  | getline (src : Source)
  /-- `fmd_parse_cfg` takes up a token. -/
  | statement (tok : Token) (src : Source)
  /-- `parse_mc_mask` asks for the next port; the token is the last one it got. -/
  | mcPort (tok : Option Token) (src : Source)
  deriving DecidableEq, Repr

/-- Why a function is left early; what follows an access out of bounds is not defined. -/
inductive CfgStop where
  | failed
  | outOfBounds
  deriving DecidableEq, Repr

/-- The configuration with the file it is read from and the component tags it registers. -/
structure CfgState where
  cfg : IntCfgParms
  src : Source
  /-- Whether an index from the text was refused because of its size. -/
  exceeded : Bool
  tags : CtState

abbrev CfgProg := Prog CfgStop CfgState CfgEvent

variable {α : Type}

/-- The configuration. -/
def getCfg : CfgProg IntCfgParms := Prog.read CfgState.cfg

/-- The state of the file. -/
def getSource : CfgProg Source := Prog.read CfgState.src

/-- Change the configuration. -/
def setCfg (f : IntCfgParms → IntCfgParms) : CfgProg Unit :=
  Prog.change fun state => { state with cfg := f state.cfg }

/-- Read on in the file. -/
def withSource (f : Source → α × Source) : CfgProg α :=
  Prog.act fun state => .ok (f state.src).1 { state with src := (f state.src).2 }

def parseErr : CfgProg Unit := setCfg fun cfg => { cfg with initErr := true }

/-- `goto fail`. -/
def fail : CfgProg α := Prog.stop .failed

/-- `goto fail` if the condition holds. -/
def failIf (condition : Prop) [Decidable condition] : CfgProg Unit :=
  if condition then fail else pure ()

/-- `PARSE_ERR` and `goto fail`. -/
def parseFail : CfgProg α := do
  parseErr
  fail

/-- `PARSE_ERR` for an index that is too large. -/
def exceedErr : CfgProg Unit := do
  Prog.change fun state => { state with exceeded := true }
  parseErr

/-- `PARSE_ERR` and `goto fail` for an index that is too large. -/
def exceedFail : CfgProg α := do
  exceedErr
  fail

/-- The same if the condition holds. -/
def exceedIf (condition : Prop) [Decidable condition] : CfgProg Unit :=
  if condition then exceedFail else pure ()

/-- A value, or `goto fail`. -/
def orElseFail : Option α → CfgProg α
  | some value => pure value
  | none => fail

/-- A value, or `PARSE_ERR` and `goto fail` for an index that is too large. -/
def orElseExceed : Option α → CfgProg α
  | some value => pure value
  | none => exceedFail

/-- A function whose label `fail` calls `PARSE_ERR`. -/
def failLabel (body : CfgProg α) : CfgProg α :=
  Prog.handle body fun
    | .failed => parseFail
    | .outOfBounds => Prog.stop .outOfBounds

/-- A call whose return code is not looked at. -/
def ignoreFail (body : CfgProg Unit) : CfgProg Unit :=
  Prog.handle body fun
    | .failed => pure ()
    | .outOfBounds => Prog.stop .outOfBounds

/-- Use an index for an array. -/
def access (array : CfgArray) (idx : Nat) : CfgProg (Fin array.size) := do
  Prog.emit (.access array idx)
  if inBounds : idx < array.size then pure ⟨idx, inBounds⟩ else Prog.stop .outOfBounds

/-- Use the number of a port of a switch from the text. -/
def accessSwPort (port : Nat) : CfgProg (Fin 24) := do
  Prog.emit (.swPort port)
  access .swPorts port

/-- Use the number of a port of an endpoint from the text. -/
def accessEpPort (port : Nat) : CfgProg (Fin 1) := do
  Prog.emit (.epPort port)
  access .epPorts port

/-! ## Tokens -/

def flushComment (tok : Option Token) : CfgProg Unit :=
  Prog.loop (fun
    | none => pure (.inr ())
    | some _ => do
        let tok ← withSource Source.nextWord
        pure (.inl tok)) tok

/-- One turn of the inner loop of `try_get_next_token`, with the variables `rc` and
`byte_cnt`. -/
def readLine : Option Token × Nat → CfgProg ((Option Token × Nat) ⊕ (Option Token × Nat))
  | (none, byteCnt) =>
    if byteCnt > 0 then do
      let src ← getSource
      Prog.emit (.getline src)
      let (byteCnt, rc) ← withSource Source.refill
      pure (.inl (rc, byteCnt))
    else pure (.inr (none, byteCnt))
  | found => pure (.inr found)

/-- A token that is no comment ends the outer loop of `try_get_next_token`. -/
def checkComment (byteCnt : Nat) (rc : Option Token) :
    CfgProg ((Option Token × Nat) ⊕ Option Token) :=
  match rc with
  | none => pure (.inl (none, byteCnt))
  | some tok =>
    if isComment tok then do
      flushComment (some tok)
      pure (.inl (none, byteCnt))
    else pure (.inr (some tok))

/-- One turn of the outer loop of `try_get_next_token`. -/
def readToken (start : Option Token × Nat) : CfgProg ((Option Token × Nat) ⊕ Option Token) := do
  let (rc, byteCnt) ← Prog.loop readLine start
  if byteCnt ≤ 0 then pure (.inr none) else checkComment byteCnt rc

/-- The start of `try_get_next_token`: the next word of the line, if there is a line. -/
def Source.start (src : Source) : Option Token × Source :=
  if src.line.isNone then (none, { src with line := some [] }) else src.nextWord

def tryGetNextToken : CfgProg (Option Token) := do
  let cfg ← getCfg
  if cfg.initErr then pure none
  else do
    let rc ← withSource Source.start
    Prog.loop readToken (rc, 1)

/-- `get_next_token`; there is no token where it returns 1. -/
def getNextToken : CfgProg (Option Token) := do
  let cfg ← getCfg
  if cfg.initErr then pure none
  else do
    match ← tryGetNextToken with
    | some tok => pure (some tok)
    | none => do
        parseErr
        pure none

/-- `get_next_token`, or `goto fail`. -/
def requireToken : CfgProg Token := do
  let tok ← getNextToken
  orElseFail tok

def devidSzTokens : List String := ["dev08", "dev16", "dev32"]

/-- `get_devid_sz`, which stores the index before it is checked. -/
def getDevidSz (store : Nat → IntCfgParms → IntCfgParms) : CfgProg Unit :=
  failLabel do
    let cfg ← getCfg
    failIf (cfg.initErr = true)
    let tok ← requireToken
    setCfg (store (parmIdx tok devidSzTokens))
    exceedIf (parmIdx tok devidSzTokens > 2)

/-- `get_dec_int` and `get_hex_int`. -/
def getInt (base : Nat) : CfgProg Nat :=
  failLabel do
    let cfg ← getCfg
    failIf (cfg.initErr = true)
    let tok ← requireToken
    orElseFail (tokParseUl tok base)

def getDecInt : CfgProg Nat := getInt 10

def getHexInt : CfgProg Nat := getInt 16

/-- `get_parm_idx`; `none` for -1. -/
def getParmIdx (parmList : List String) : CfgProg (Option Nat) := do
  let tok ← getNextToken
  pure (tok.map fun tok => parmIdx tok parmList)

def getString : CfgProg Token := requireToken

/-- The value `get_rt_v` gives to a token. -/
def rtVOf (tok : Token) : CfgProg PeRtVal :=
  match parmIdx tok ["MC", "NEXT_BYTE", "DEFAULT", "DROP"] with
  | 0 => do
      let val ← getDecInt
      exceedIf (val ≥ 256)
      pure (BitVec.ofNat 32 (val + 256))
  | 1 => pure rioRteLvlG0
  | 2 => pure rioRteDfltPort
  | 3 => pure rioRteDrop
  | _ => do
      let val ← orElseExceed (tokParsePortNum tok 0)
      pure (BitVec.ofNat 32 val)

def getRtV : CfgProg PeRtVal :=
  failLabel do
    let tok ← requireToken
    rtVOf tok

/-! ## Names -/

/-- The first of some elements of an array that passes a test. -/
def findFirst (array : CfgArray) (test : Fin array.size → Bool) :
    List Nat → CfgProg (Option (Fin array.size))
  | [] => pure none
  | i :: rest => do
      let idx ← access array i
      if test idx then pure (some idx) else findFirst array test rest

def findEpName (name : Token) : CfgProg (Option (Fin 70)) := do
  let cfg ← getCfg
  findFirst .eps (fun idx => (cfg.eps idx).name == name) (List.range cfg.epCnt)

def findSwName (name : Token) : CfgProg (Option (Fin 20)) := do
  let cfg ← getCfg
  findFirst .sws (fun idx => (cfg.sws idx).name == name) (List.range cfg.swCnt)

/-- The NUL that is written in place of a dot. -/
def cutAtDot : CfgProg Unit := withSource fun src => ((), src.cutAtDot)

/-- The end of `find_ep_and_port`: the port must be valid. -/
def checkEpPort (ep : Fin 70) (port : Nat) : CfgProg (Option (Fin 70 × Fin 1)) := do
  let port ← accessEpPort port
  let cfg ← getCfg
  if ((cfg.eps ep).ports port).valid then pure (some (ep, port))
  else do
    parseErr
    pure none

/-- `find_ep_and_port`; `none` where it returns 1. -/
def findEpAndPort (tok : Token) : CfgProg (Option (Fin 70 × Fin 1)) :=
  match splitAtDot tok with
  | none => pure none
  | some (name, number) => do
      cutAtDot
      match tokParseUlong number 0 1 0 with
      | none => do
          exceedErr
          pure none
      | some port => do
          match ← findEpName name with
          | none => pure none
          | some ep => checkEpPort ep port

/-- The device ID that `cfg_get_destid` takes from an endpoint. -/
def epDestid (devidSz : Nat) (ep : Fin 70) (port : Fin 1) : CfgProg Nat := do
  let size ← access .devids devidSz
  let cfg ← getCfg
  if (((cfg.eps ep).ports port).devids size).valid then
    pure (((cfg.eps ep).ports port).devids size).didVal
  else parseFail

/-- `cfg_get_destid`.  Where the token names no endpoint it is a number, without what
`find_ep_and_port` has cut off. -/
def cfgGetDestid (devidSz : Nat) : CfgProg Nat :=
  failLabel do
    let tok ← requireToken
    match ← findEpAndPort tok with
    | some (ep, port) => epDestid devidSz ep port
    | none => do
        let cfg ← getCfg
        failIf (cfg.initErr = true)
        orElseFail (tokParseDid (tok.takeWhile (· ≠ '.')) 16)

/-! ## MPORT and MASTER_INFO -/

/-- A table of values for the words of a list. -/
def getChoice (parmList : List String) (values : List α) : CfgProg α := do
  match ← getParmIdx parmList with
  | some idx =>
    match values[idx]? with
    | some value => pure value
    | none => parseFail
  | none => parseFail

def parseMportMemSize : CfgProg Nat := getChoice ["mem34", "mem50", "mem66"] [34, 50, 66]

/-- One turn of the loop of `parse_ep_devids`, for a size of device IDs. -/
def parseDevid (devids : Fin 3 → DevId) (devidSz : Nat) : CfgProg (Fin 3 → DevId) := do
  let size ← access .devids devidSz
  -- only one of each size
  failIf ((devids size).valid = true)
  let didVal ← getHexInt
  let hc ← getDecInt
  failIf (hc > hcMp)
  pure (Function.update devids size ⟨true, hc, didVal⟩)

/-- One turn of the loop of `parse_ep_devids`. -/
def devidsTurn (devids : Fin 3 → DevId) : CfgProg ((Fin 3 → DevId) ⊕ (Fin 3 → DevId)) := do
  match ← getParmIdx (devidSzTokens ++ ["END"]) with
  | some devidSz =>
    if devidSz < 3 then do
      let devids ← parseDevid devids devidSz
      pure (.inl devids)
    else if devidSz = 3 then pure (.inr devids)
    else fail
  | none => fail

def parseEpDevids : CfgProg (Fin 3 → DevId) := failLabel (Prog.loop devidsTurn unsetDevids)

/-- The mport is that of the endpoint. -/
def sameDevid (mpDid epDid : DevId) : Bool :=
  mpDid.valid && epDid.valid && mpDid.didVal == epDid.didVal && mpDid.hc == epDid.hc

def checkMatch (mport : Fin 4) (size : Fin 3) (ep : Fin 70) (port : Fin 1) : CfgProg Unit := do
  let cfg ← getCfg
  let epPort := (cfg.eps ep).ports port
  if sameDevid ((cfg.mportInfo mport).devids size) (epPort.devids size) then
    if (cfg.mportInfo mport).ep.isSome then parseFail
    else setCfg (·.setMport mport fun mpi =>
      { mpi with ep := some ep, epPnum := some port, ct := epPort.ct })
  else pure ()

def matchEpToMports (ep : Fin 70) (port : Fin 1) : CfgProg Unit := do
  let cfg ← getCfg
  (List.range cfg.maxMportInfoIdx).forM fun mpI => do
    let mport ← access .mportInfo mpI
    let size ← access .devids cfg.mastDidSzIdx
    checkMatch mport size ep port

/-- The numbers of the mports before this one are other numbers. -/
def checkMportNumbers (idx : Fin 4) : CfgProg Unit :=
  (List.range idx.val).forM fun i => do
    let other ← access .mportInfo i
    let cfg ← getCfg
    if (cfg.mportInfo other).num = (cfg.mportInfo idx).num then parseFail else pure ()

/-- The operating mode of an mport; there can be one master. -/
def parseOpMode (idx : Fin 4) : CfgProg Unit := do
  match ← getParmIdx ["master", "slave"] with
  | some 0 => do
      let cfg ← getCfg
      if cfg.mastIdx.isSome then parseFail
      else setCfg fun cfg =>
        { cfg.setMport idx fun mpi => { mpi with opMode := some .master } with
          mastIdx := some idx.val }
  | some 1 => setCfg (·.setMport idx fun mpi => { mpi with opMode := some .slave })
  | _ => parseFail

def parseMportInfo : CfgProg Unit :=
  failLabel do
    let cfg ← getCfg
    exceedIf (cfg.maxMportInfoIdx ≥ 4)
    let idx ← access .mportInfo cfg.maxMportInfoIdx
    let num ← getDecInt
    setCfg fun cfg =>
      { cfg.setMport idx fun mpi => { mpi with num := num } with
        maxMportInfoIdx := cfg.maxMportInfoIdx + 1 }
    checkMportNumbers idx
    parseOpMode idx
    let memSz ← parseMportMemSize
    setCfg (·.setMport idx fun mpi => { mpi with memSz := memSz })
    let devids ← parseEpDevids
    setCfg (·.setMport idx fun mpi => { mpi with devids := devids })

def parseMasterInfo : CfgProg Unit :=
  failLabel do
    getDevidSz fun size cfg => { cfg with mastDidSzIdx := size }
    let didVal ← getHexInt
    setCfg fun cfg => { cfg with mastDidVal := didVal }
    let cmPort ← getDecInt
    setCfg fun cfg => { cfg with mastCmPort := cmPort }

/-! ## ENDPOINT -/

def getLaneSpeed : CfgProg RioPcLs :=
  getChoice ["1p25", "2p5", "3p125", "5p0", "6p25", "10p3", "12p5"]
    [.ls1p25, .ls2p5, .ls3p125, .ls5p0, .ls6p25, .ls10p3, .ls12p5]

def getPortWidth : CfgProg RioPcPw :=
  getChoice ["1x", "2x", "4x", "1x_l0", "1x_l1", "1x_l2"]
    [.pw1x, .pw2x, .pw4x, .pw1xL0, .pw1xL1, .pw1xL2]

def getIdleSeq : CfgProg RioPcIdleSeq :=
  getChoice ["IDLE1", "IDLE2", "IDLE3", "DFLT"] [.one, .two, .three, .dflt]

def parseRapidio : CfgProg IntCfgRapidio := do
  let maxPw ← getPortWidth
  let opPw ← getPortWidth
  let ls ← getLaneSpeed
  let iseq ← getIdleSeq
  let em ← getChoice ["EM_OFF", "EM_ON"] [false, true]
  pure ⟨maxPw, opPw, ls, iseq, em⟩

def parseEpPort (ep : Fin 70) (port : Fin 1) : CfgProg Unit := do
  let num ← getDecInt
  let ct ← getHexInt
  let rio ← parseRapidio
  let devids ← parseEpDevids
  setCfg (·.setEpPort ep port fun prt =>
    { prt with valid := true, port := num, ct := ct, rio := rio, devids := devids })

/-- The case `PORT` of `parse_endpoint`. -/
def parseEndpointPort (i : Fin 70) : CfgProg Unit := do
  let cfg ← getCfg
  exceedIf ((cfg.eps i).portCnt ≥ 1)
  let port ← access .epPorts (cfg.eps i).portCnt
  parseEpPort i port
  setCfg (·.setEp i fun ep => { ep with portCnt := ep.portCnt + 1 })
  matchEpToMports i port

/-- One turn of the loop of `parse_endpoint`. -/
def endpointTurn (i : Fin 70) : CfgProg (Unit ⊕ Unit) := do
  let cfg ← getCfg
  if (cfg.eps i).portCnt ≥ 2 then pure (.inr ())
  else do
    match ← getParmIdx ["PORT", "PEND"] with
    | some 0 => do
        parseEndpointPort i
        pure (.inl ())
    | some 1 => pure (.inr ())
    | _ => parseFail

def parseEndpoint : CfgProg Unit := do
  let cfg ← getCfg
  exceedIf (cfg.epCnt ≥ 70)
  let i ← access .eps cfg.epCnt
  let name ← getString
  setCfg (·.setEp i fun ep => { ep with name := name, portCnt := 0 })
  Prog.loop (fun _ => endpointTurn i) ()
  setCfg fun cfg =>
    { cfg.setEp i fun ep => { ep with valid := true } with epCnt := cfg.epCnt + 1 }

/-! ## Routing tables -/

/-- `&cfg->sws[i].rt[rt_sz]` or `&cfg->sws[i].ports[port].rt[rt_sz]`. -/
inductive RtRef where
  | global (size : Fin 3)
  | port (port : Fin 24) (size : Fin 3)
  deriving DecidableEq, Repr

/-- Change a routing table of a switch. -/
def IntCfgParms.setRt (cfg : IntCfgParms) (i : Fin 20) (ref : RtRef)
    (f : RioRtState → RioRtState) : IntCfgParms :=
  match ref with
  | .global size =>
    cfg.setSw i fun sw => { sw with rt := Function.update sw.rt size (f (sw.rt size)) }
  | .port port size =>
    cfg.setSwPort i port fun prt =>
      { prt with rt := Function.update prt.rt size (f (prt.rt size)) }

def assignRtVEntry (rtv : PeRtVal) (entry : RioRtUcInfo) : RioRtUcInfo :=
  if entry.rteVal ≠ rtv then ⟨rtv, true⟩ else entry

/-- Assign the entries of the device table from `first` to `last`. -/
def assignDevEntries (i : Fin 20) (ref : RtRef) (rtv : PeRtVal) (first last : Nat) :
    CfgProg Unit :=
  (List.range' first (last + 1 - first)).forM fun dev => do
    let idx ← access .devTable dev
    setCfg (·.setRt i ref fun rt =>
      { rt with
        devTable := Function.update rt.devTable idx (assignRtVEntry rtv (rt.devTable idx)) })

/-- Assign the entries of the domain table from `first` to `last`. -/
def assignDomEntries (i : Fin 20) (ref : RtRef) (rtv : PeRtVal) (first last : Nat) :
    CfgProg Unit :=
  (List.range' first (last + 1 - first)).forM fun dom => do
    let idx ← access .domTable dom
    setCfg (·.setRt i ref fun rt =>
      { rt with
        domTable := Function.update rt.domTable idx (assignRtVEntry rtv (rt.domTable idx)) })

/-- Change a multicast mask of a routing table. -/
def IntCfgParms.setMcMask (cfg : IntCfgParms) (i : Fin 20) (ref : RtRef) (idx : Fin 256)
    (f : RioRtMcInfo → RioRtMcInfo) : IntCfgParms :=
  cfg.setRt i ref fun rt =>
    { rt with mcMasks := Function.update rt.mcMasks idx (f (rt.mcMasks idx)) }

/-- The first destination ID routed to a multicast mask becomes that of the mask. -/
def assignMcDestid (i : Fin 20) (ref : RtRef) (rtv : PeRtVal) (did : Nat) : CfgProg Unit :=
  if rioRtvIsMcMsk rtv then do
    let idx ← access .mcMasks (rioRteIdx rtv).val
    setCfg (·.setMcMask i ref idx fun mask =>
      if mask.mcDestId = rioRteBad.toNat then { mask with mcDestId := did } else mask)
  else pure ()

def assignDev16RtV (stDidVal endDidVal : Nat) (rtv : PeRtVal) (i : Fin 20) (ref : RtRef) :
    CfgProg Unit := do
  let startDom := stDidVal % 0x10000 / 0x100
  let endDom := endDidVal % 0x10000 / 0x100
  let startDev := stDidVal % 0x100
  let endDev := endDidVal % 0x100
  exceedIf (stDidVal > 0xFFFF ∨ endDidVal > 0xFFFF)
  let direct := rioRtvIsPort rtv || rtv == rioRteDrop || rtv == rioRteDfltPort
  let whole := startDev == 0 && endDev == 255
  -- the first entry of the domain table always leads to the device table
  let firstDom := if direct && whole && startDom == 0 then 1 else startDom
  let domRtv := if direct && !whole || rioRtvIsMcMsk rtv then rioRteLvlG0 else rtv
  let devRtv := if direct && whole && startDom != 0 || rioRtvIsLvlGrp rtv then rioRteBad else rtv
  assignMcDestid i ref rtv stDidVal
  assignDomEntries i ref domRtv firstDom endDom
  if devRtv ≠ rioRteBad then assignDevEntries i ref devRtv startDev endDev else pure ()

def assignRtV (rtSz : Nat) (stDidVal endDidVal : Nat) (rtv : PeRtVal) (i : Fin 20) (ref : RtRef) :
    CfgProg Unit :=
  let first := min stDidVal endDidVal
  let last := max stDidVal endDidVal
  match rtSz with
  | 0 => do
      exceedIf (first ≥ 256 ∨ last ≥ 256)
      assignDevEntries i ref rtv first last
      assignMcDestid i ref rtv first
  | 1 => assignDev16RtV first last rtv i ref
  | _ => parseFail

/-- One turn of the loop of `parse_mc_mask`, with the variable `tok`. -/
def mcMaskTurn (i : Fin 20) (ref : RtRef) (idx : Fin 256) (tok : Option Token) :
    CfgProg (Option Token ⊕ Unit) := do
  let src ← getSource
  Prog.emit (.mcPort tok src)
  let tok ← requireToken
  if parmIdx tok ["END"] = 0 then pure (.inr ())
  else do
    let pnum ← orElseExceed (tokParsePortNum tok 0)
    setCfg (·.setMcMask i ref idx fun mask =>
      { mask with mcMask := mask.mcMask ||| 1#32 <<< pnum })
    pure (.inl (some tok))

def parseMcMask (i : Fin 20) (ref : RtRef) : CfgProg Unit :=
  failLabel do
    let mcMaskIdx ← getDecInt
    exceedIf (mcMaskIdx ≥ 256)
    let idx ← access .mcMasks mcMaskIdx
    setCfg (·.setMcMask i ref idx fun mask =>
      { mask with mcDestId := rioRteBad.toNat, tt := .ttDev8, mcMask := 0 })
    Prog.loop (mcMaskTurn i ref idx) none
    setCfg (·.setMcMask i ref idx fun mask =>
      { mask with inUse := true, allocd := true, changed := true })

/-! ## SWITCH -/

def parseSwPort : CfgProg Unit := do
  let cfg ← getCfg
  let port ← getDecInt
  let sw ← access .sws cfg.swCnt
  let port ← accessSwPort port
  let rio ← parseRapidio
  setCfg (·.setSwPort sw port fun prt => { prt with valid := true, port := port.val, rio := rio })

/-- The variables of `parse_switch` that its loop changes: `rt_sz` and `rt`. -/
abbrev RtVars := Nat × Option RtRef

/-- The table of a port starts as a copy of the global one, if that is valid. -/
def usePortTable (i : Fin 20) (port : Fin 24) (size : Fin 3) (cfg : IntCfgParms) : IntCfgParms :=
  let sw := cfg.sws i
  cfg.setSwPort i port fun prt =>
    { prt with
      rtValid := Function.update prt.rtValid size true
      rt := if sw.rtValid size then Function.update prt.rt size (sw.rt size) else prt.rt }

/-- The table that `ROUTING_TABLE` selects with a token. -/
def selectTable (i : Fin 20) (rtSz : Nat) (token : Token) : CfgProg RtRef := do
  let size ← access .rt rtSz
  if parmIdx token ["GLOBAL"] = 0 then do
    setCfg (·.setSw i fun sw => { sw with rtValid := Function.update sw.rtValid size true })
    pure (.global size)
  else do
    let port ← orElseExceed (tokParsePortNum token 0)
    let port ← access .swPorts port
    setCfg (usePortTable i port size)
    pure (.port port size)

/-- The case `ROUTING_TABLE` of `parse_switch`. -/
def parseRoutingTable (i : Fin 20) : CfgProg RtVars := do
  let rtSz ← getParmIdx devidSzTokens
  let rtSz ← orElseExceed (rtSz.filter (· ≤ 2))
  let token ← requireToken
  let ref ← selectTable i rtSz token
  pure (rtSz, some ref)

/-- `rt` is set once there was a `ROUTING_TABLE`. -/
def requireTable (rt : Option RtRef) : CfgProg RtRef :=
  match rt with
  | some ref => pure ref
  | none => parseFail

/-- The case `DFLTPORT` of `parse_switch`. -/
def parseDfltport (i : Fin 20) (rt : Option RtRef) : CfgProg Unit := do
  let rtv ← getRtV
  let ref ← requireTable rt
  setCfg (·.setRt i ref fun rt => { rt with defaultRoute := rtv })

/-- The case `DESTID` of `parse_switch`. -/
def parseDestid (i : Fin 20) (vars : RtVars) : CfgProg Unit := do
  let stDidVal ← cfgGetDestid vars.1
  let rtv ← getRtV
  let ref ← requireTable vars.2
  failLabel (assignRtV vars.1 stDidVal stDidVal rtv i ref)

/-- The case `RANGE` of `parse_switch`. -/
def parseRange (i : Fin 20) (vars : RtVars) : CfgProg Unit := do
  let stDidVal ← cfgGetDestid vars.1
  let endDidVal ← cfgGetDestid vars.1
  let rtv ← getRtV
  let ref ← requireTable vars.2
  failLabel (assignRtV vars.1 stDidVal endDidVal rtv i ref)

/-- The case `MCMASK` of `parse_switch`. -/
def parseMcmask (i : Fin 20) (rt : Option RtRef) : CfgProg Unit := do
  let ref ← requireTable rt
  parseMcMask i ref

/-- The parameters of a switch. -/
def switchTokens : List String :=
  ["PORT", "ROUTING_TABLE", "DFLTPORT", "DESTID", "RANGE", "MCMASK", "END"]

/-- What `parse_switch` does with the parameter of the given index. -/
def switchParm (i : Fin 20) (vars : RtVars) : Nat → CfgProg (RtVars ⊕ Unit)
  | 0 => do
      parseSwPort
      pure (.inl vars)
  | 1 => do
      let vars ← parseRoutingTable i
      pure (.inl vars)
  | 2 => do
      parseDfltport i vars.2
      pure (.inl vars)
  | 3 => do
      parseDestid i vars
      pure (.inl vars)
  | 4 => do
      parseRange i vars
      pure (.inl vars)
  | 5 => do
      parseMcmask i vars.2
      pure (.inl vars)
  | 6 => pure (.inr ())
  | _ => parseFail

/-- One turn of the loop of `parse_switch`. -/
def switchTurn (i : Fin 20) (vars : RtVars) : CfgProg (RtVars ⊕ Unit) := do
  match ← getParmIdx switchTokens with
  | some idx => switchParm i vars idx
  | none => parseFail

/-- The head of `parse_switch`.  A hop count that is too large is an error that sets no flag. -/
def parseSwitchHead (i : Fin 20) : CfgProg Unit := do
  let devType ← getString
  setCfg (·.setSw i fun sw => { sw with devType := devType })
  let name ← getString
  setCfg (·.setSw i fun sw => { sw with name := name })
  getDevidSz fun size cfg => cfg.setSw i fun sw => { sw with didSzIdx := size }
  let didVal ← getHexInt
  setCfg (·.setSw i fun sw => { sw with didVal := didVal })
  let hc ← getDecInt
  failIf (hc > hcMp)
  setCfg (·.setSw i fun sw => { sw with hc := hc })
  let ct ← getHexInt
  setCfg (·.setSw i fun sw => { sw with ct := ct })

def parseSwitch : CfgProg Unit := do
  let cfg ← getCfg
  exceedIf (cfg.swCnt ≥ 20)
  let i ← access .sws cfg.swCnt
  parseSwitchHead i
  Prog.loop (switchTurn i) (0, none)
  setCfg fun cfg =>
    { cfg.setSw i fun sw => { sw with valid := true } with swCnt := cfg.swCnt + 1 }

/-! ## CONNECT -/

/-- The port that an end of a connection names. -/
def namedPort (name : Token) (port : Nat) : CfgProg Port := do
  match ← findEpName name with
  | some ep => do
      exceedIf (port ≥ 1)
      let port ← access .epPorts port
      let cfg ← getCfg
      if ((cfg.eps ep).ports port).valid then pure (.ep ep port) else parseFail
  | none => do
      match ← findSwName name with
      | some sw => do
          exceedIf (port ≥ 24)
          let port ← access .swPorts port
          let cfg ← getCfg
          if ((cfg.sws sw).ports port).valid then pure (.sw sw port) else parseFail
      | none => parseFail

def getEpSwAndPort (conn : Fin 480) (idx : Fin 2) : CfgProg Unit := do
  match ← getNextToken with
  | none => parseFail
  | some tok =>
    match splitAtDot tok with
    | none => parseFail
    | some (name, number) => do
        cutAtDot
        let port ← orElseExceed (tokParsePortNum number 0)
        let port ← namedPort name port
        setCfg (·.connectEnd conn idx port)

def parseConnect : CfgProg Unit := do
  let cfg ← getCfg
  exceedIf (cfg.connCnt ≥ 480)
  let idx ← access .cons cfg.connCnt
  getEpSwAndPort idx 0
  getEpSwAndPort idx 1
  setCfg fun cfg =>
    { cfg with
      connCnt := cfg.connCnt + 1
      cons := Function.update cfg.cons idx { cfg.cons idx with valid := true } }

/-! ## The file -/

/-- The statements of a configuration file. -/
def statements : List String :=
  ["//", "DEV_DIR", "DEV_DIR_MTX", "MPORT", "MASTER_INFO", "ENDPOINT", "SWITCH", "CONNECT", "AUTO",
    "AUTO16", "EOF"]

/-- A directory name for `DEV_DIR` or `DEV_DIR_MTX`. -/
def parseDir (store : Token → IntCfgParms → IntCfgParms) : CfgProg Unit := do
  match ← getNextToken with
  | none => pure ()
  | some tok =>
    match getVStr tok with
    | some name => setCfg (store name)
    | none => parseErr

/-- What `fmd_parse_cfg` does for the statement of the given index. -/
def parseStatement (tok : Token) : Nat → CfgProg Unit
  | 0 => flushComment (some tok)
  | 1 => parseDir fun name cfg => { cfg with ddFn := some name }
  | 2 => parseDir fun name cfg => { cfg with ddMtxFn := some name }
  | 3 => ignoreFail parseMportInfo
  | 4 => ignoreFail parseMasterInfo
  | 5 => ignoreFail parseEndpoint
  | 6 => ignoreFail parseSwitch
  | 7 => ignoreFail parseConnect
  | 8 => setCfg fun cfg => { cfg with autoConfig := true }
  | _ => setCfg fun cfg => { cfg with autoConfig := true, mastDidSzIdx := 1 }

/-- One turn of the loop of `fmd_parse_cfg`, with the variable `tok`. -/
def statementTurn : Option Token → CfgProg (Option Token ⊕ Unit)
  | none => pure (.inr ())
  | some tok => do
      let state ← Prog.read id
      if state.cfg.initErr then pure (.inr ())
      else do
        Prog.emit (.statement tok state.src)
        let idx := parmIdx tok statements
        if idx < 10 then do
          parseStatement tok idx
          let next ← tryGetNextToken
          pure (.inl next)
        else if idx = 10 then pure (.inr ())
        else do
          parseErr
          pure (.inr ())

/-- `fmd_parse_cfg`, which returns the error flag. -/
def fmdParseCfg : CfgProg Bool := do
  let tok ← tryGetNextToken
  Prog.loop statementTurn tok
  withSource fun src => ((), { src with line := none })
  let cfg ← getCfg
  pure cfg.initErr

/-! ## The tags of the configuration -/

/-- `did_size_from_int`, which returns 0 for two sizes. -/
def didSizeFromInt : Nat → Option DidSz
  | 0 => some .dev08Sz
  | 1 => some .dev16Sz
  | _ => none

/-- `ct_create_from_data`; `none` where it fails. -/
def createTag (tags : CtState) (nr didVal : Nat) (size : DidSz) : Option CtState :=
  let (rc, _, _, tags) :=
    ctCreateFromData tags (some comptagUnset) (some didInvalidId) nr didVal size
  if rc = .success then some tags else none

/-- Mark the tag and the device ID of a port of an endpoint as in use. -/
def markEpPort (cfg : IntCfgParms) (tags : CtState) (port : IntCfgEpPort) : Option CtState :=
  if !port.valid then some tags
  else if (ctGetNr port.ct).1 ≠ .success then none
  else
    match didSizeFromInt cfg.mastDidSzIdx with
    | none => some tags
    | some size =>
      let didVal := (port.devids (Fin.ofNat 3 cfg.mastDidSzIdx)).didVal
      if didVal = 0 then some tags else createTag tags (ctGetNr port.ct).2 didVal size

/-- Mark the tags and device IDs of an endpoint. -/
def markEp (cfg : IntCfgParms) (tags : CtState) (ep : IntCfgEp) : Option CtState :=
  if ep.valid then
    ((List.finRange 1).filter (·.val < ep.portCnt)).foldlM
      (fun tags port => markEpPort cfg tags (ep.ports port)) tags
  else some tags

/-- Mark the tag and the device ID of a switch. -/
def markSw (tags : CtState) (sw : IntCfgSw) : Option CtState :=
  if !sw.valid then some tags
  else if (ctGetNr sw.ct).1 ≠ .success then none
  else
    match didSizeFromInt sw.didSzIdx with
    | none => some tags
    | some size => createTag tags (ctGetNr sw.ct).2 sw.didVal size

/-- The two loops of `cfg_parse_file`. -/
def markTags (cfg : IntCfgParms) (tags : CtState) : Option CtState := do
  let tags ← ((List.finRange 70).filter (·.val < cfg.epCnt)).foldlM
    (fun tags idx => markEp cfg tags (cfg.eps idx)) tags
  ((List.finRange 20).filter (·.val < cfg.swCnt)).foldlM
    (fun tags idx => markSw tags (cfg.sws idx)) tags

/-- The master's device ID, which is created where this is a master with a fixed
configuration. -/
def masterDid (cfg : IntCfgParms) (tags : CtState) : Option (Did × CtState) :=
  match didSizeFromInt cfg.mastDidSzIdx with
  | none => none
  | some size =>
    if cfg.mastIdx.isNone || cfg.autoConfig then some (⟨cfg.mastDidVal, size⟩, tags)
    else
      let (rc, did, dids) := didFromValue tags.dids cfg.mastDidVal cfg.mastDidSzIdx
      if rc = .success then some (did, { tags with dids := dids }) else none

/-- What `cfg_parse_file` stores through its parameters. -/
structure CfgMaster where
  ddMtxFn : Option Token
  ddFn : Option Token
  did : Did
  cmPort : Nat
  mode : Bool

/-- The part of `cfg_parse_file` after the file is parsed. -/
def useCfg : CfgProg CfgMaster := Prog.act fun state =>
  match (markTags state.cfg state.tags).bind (masterDid state.cfg) with
  | none => .error .failed state
  | some (did, tags) =>
    let cfg := state.cfg
    .ok ⟨cfg.ddMtxFn, cfg.ddFn, did, cfg.mastCmPort, cfg.mastIdx.isSome⟩
      { state with tags := tags }

/-- `cfg_parse_file`, for a file with the given text. -/
def cfgParseFile (text : List Char) : CfgProg CfgMaster := do
  Prog.change fun state => ⟨initCfgPtr, .opened text, false, state.tags⟩
  let initErr ← fmdParseCfg
  failIf (initErr = true)
  useCfg

end RioFabric.Libcfg
