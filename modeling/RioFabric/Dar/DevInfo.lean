import RioFabric.Dar.PortList

/-!
# What the library knows of a device

`DAR_DEV_INFO_t` has what was read of a device when it was discovered, copies of some of its
registers, and a cache of others.  A routine checks the handle in it before it does anything.
-/

namespace RioFabric.Dar

def darDbInvalidHandle : Nat := 0x70000004

def rioErrAccess : Nat := 0x1004

def rioErrInsufficientResources : Nat := 0x1007

def rioErrFeatureNotSupported : Nat := 0x100A

def rioErrNullParmPtr : Nat := 0x1012

def rioErrSwFailure : Nat := 0x1014

def rioErrRegAccessFail : Nat := 0xFFFFFFFF

/-- `rio_driver_family_t`. -/
inductive RioDriverFamily where
  | uninitialized | cps | rxs | tsi721 | tsi57x | unknown
  deriving DecidableEq

/-- `rio_perf_opt_reg_t`. -/
structure RioPerfOptReg where
  offset : BitVec 32
  data : BitVec 32
  deriving DecidableEq

/-- `DAR_DEV_INFO_t`.  Of `ctl1_reg` there are `RIO_MAX_PORTS` elements; of `poregs`, which may be
missing, those are listed that are valid. -/
structure DarDevInfo where
  driverFamily : RioDriverFamily
  dsfH : BitVec 32
  extFPtrForPort : BitVec 32
  extFPtrPortType : BitVec 32
  extFPtrForLane : BitVec 32
  extFPtrForErr : BitVec 32
  extFPtrForVC : BitVec 32
  extFPtrForVOQ : BitVec 32
  extFPtrForRT : BitVec 32
  extFPtrForTS : BitVec 32
  extFPtrForMISC : BitVec 32
  extFPtrForHS : BitVec 32
  devID : BitVec 32
  devInfo : BitVec 32
  assyInfo : BitVec 32
  features : BitVec 32
  swPortInfo : BitVec 32
  swRtInfo : BitVec 32
  srcOps : BitVec 32
  dstOps : BitVec 32
  swMcastInfo : BitVec 32
  ctl1Reg : Nat → BitVec 32
  scratchpad : Nat → BitVec 32
  poregsMax : Nat
  poregs : Option (List RioPerfOptReg)

def rioDevIdentVend : BitVec 32 := 0x0000ffff

def rioDevIdentDevi : BitVec 32 := 0xffff0000

def rioSwPortInfTot : BitVec 32 := 0x0000ff00

namespace DarDevInfo

variable (dev : DarDevInfo)

/-- `VALIDATE_DEV_INFO`. -/
def valid : Bool :=
  (dev.dsfH >>> 16) &&& rioDevIdentVend = dev.devID &&& rioDevIdentVend ∧
    dev.driverFamily ≠ .uninitialized

def numPorts : Nat := ((dev.swPortInfo &&& rioSwPortInfTot) >>> 8).toNat

/-- `DECODE_DEVICE_ID` of the device. -/
def deviceId : BitVec 16 := ((dev.devID &&& rioDevIdentDevi) >>> 16).setWidth 16

def poregCnt : Nat := (dev.poregs.getD []).length

end DarDevInfo

def rioVendIdt : BitVec 16 := 0x0038

def rioVendTundra : BitVec 16 := 0x000d

def rioDeviIdtCps1432 : BitVec 16 := 0x0375

/-- `RIO_DEVI_IDT_CPS1848`, `RIO_DEVI_IDT_CPS1432`, `RIO_DEVI_IDT_CPS1616` and
`RIO_DEVI_IDT_SPS1616`. -/
def cpsDevices : List (BitVec 16) := [0x0374, rioDeviIdtCps1432, 0x0379, 0x0378]

/-- `RIO_DEVI_IDT_RXS2448` and `RIO_DEVI_IDT_RXS1632`. -/
def rxsDevices : List (BitVec 16) := [0x80e6, 0x80e5]

def rioDeviIdtTsi721 : BitVec 16 := 0x80ab

/-- `RIO_DEVI_TSI572`, `RIO_DEVI_TSI574`, `RIO_DEVI_TSI577` and `RIO_DEVI_TSI578`. -/
def tsi57xDevices : List (BitVec 16) := [0x0572, 0x0574, 0x0577, 0x0578]

/-- `rio_get_driver_family`, with the drivers of all families. -/
def rioGetDriverFamily (devID : BitVec 32) : RioDriverFamily :=
  let vendCode : BitVec 16 := (devID &&& rioDevIdentVend).setWidth 16
  let devCode : BitVec 16 := ((devID &&& rioDevIdentDevi) >>> 16).setWidth 16
  if vendCode = rioVendIdt then
    if devCode ∈ cpsDevices then .cps
    else if devCode ∈ rxsDevices then .rxs
    else if devCode = rioDeviIdtTsi721 then .tsi721
    else .unknown
  else if vendCode = rioVendTundra then
    if devCode ∈ tsi57xDevices then .tsi57x else .unknown
  else .unknown

end RioFabric.Dar
