import RioFabric.CpsPort.Registers

/-!
# Ports, lanes and PLLs of CPS devices

The ports of a CPS device are in four quadrants.  Which lanes a port of a quadrant has, and which
PLLs they run on, depends on a field of two bits that says how the quadrant is configured.
-/

namespace RioFabric.CpsPort

def invalidPll : Nat := 0xFF

/-- `p_q_cfg_t`: how many lanes a port has and which is the first one, its PLLs, and the other
ports that depend on them; elements that are `INVALID_PLL` or `RIO_ALL_PORTS` come last in the
tables and are left out. -/
structure PQCfg where
  laneCount : Nat
  firstLane : Nat
  pll : List Nat
  otherPorts : List Nat
  deriving DecidableEq

namespace PQCfg

variable (cfg : PQCfg)

def lanes : List Nat := List.range' cfg.firstLane cfg.laneCount

/-- `pll[0]`. -/
def pll0 : Nat := cfg.pll.headD invalidPll

end PQCfg

/-- A port that has no lanes. -/
def noLanes : PQCfg := ⟨0, 0, [], []⟩

/-- `cps_port_relations_t`: the quadrant of a port, and its lanes for each value of the field. -/
structure CpsPortRelations where
  quadrant : Nat
  cfg : List PQCfg

/-- `cps1848_cfg`, without its last element. -/
def cps1848Cfg : List CpsPortRelations :=
  [⟨0, [⟨4, 0, [0], []⟩, ⟨2, 0, [0], [12]⟩, ⟨2, 0, [0], [12]⟩, ⟨2, 0, [0], [12, 16]⟩]⟩,
    ⟨1, [⟨4, 4, [1], []⟩, ⟨2, 4, [1], [13]⟩, ⟨2, 4, [1], [13]⟩, ⟨2, 4, [1], [13, 17]⟩]⟩,
    ⟨2, [⟨4, 8, [2], []⟩, ⟨2, 8, [2], [14]⟩, ⟨0, 0, [], []⟩, ⟨0, 0, [], []⟩]⟩,
    ⟨3, [⟨4, 12, [3], []⟩, ⟨2, 12, [3], [15]⟩, ⟨0, 0, [], []⟩, ⟨0, 0, [], []⟩]⟩,
    ⟨0, [⟨4, 16, [4], []⟩, ⟨4, 16, [4], []⟩, ⟨4, 16, [4], []⟩, ⟨4, 16, [4], []⟩]⟩,
    ⟨1, [⟨4, 20, [5], []⟩, ⟨4, 20, [5], []⟩, ⟨4, 20, [5], []⟩, ⟨4, 20, [5], []⟩]⟩,
    ⟨2, [⟨4, 24, [6], []⟩, ⟨4, 24, [6], []⟩, ⟨0, 0, [], []⟩, ⟨0, 0, [], []⟩]⟩,
    ⟨3, [⟨4, 28, [7], []⟩, ⟨4, 28, [7], []⟩, ⟨0, 0, [], []⟩, ⟨0, 0, [], []⟩]⟩,
    ⟨0, [⟨4, 32, [8], []⟩, ⟨4, 32, [8], []⟩, ⟨2, 32, [8], [16]⟩, ⟨4, 32, [8], []⟩]⟩,
    ⟨1, [⟨4, 36, [9], []⟩, ⟨4, 36, [9], []⟩, ⟨2, 36, [9], [17]⟩, ⟨4, 36, [9], []⟩]⟩,
    ⟨2, [⟨4, 40, [10], []⟩, ⟨4, 40, [10], []⟩, ⟨0, 0, [], []⟩, ⟨0, 0, [], []⟩]⟩,
    ⟨3, [⟨4, 44, [11], []⟩, ⟨4, 44, [11], []⟩, ⟨0, 0, [], []⟩, ⟨0, 0, [], []⟩]⟩,
    ⟨0, [⟨0, 0, [0], []⟩, ⟨2, 2, [0], [0]⟩, ⟨2, 2, [0], [0]⟩, ⟨1, 2, [0], [0, 16]⟩]⟩,
    ⟨1, [⟨0, 0, [0], []⟩, ⟨2, 6, [1], [1]⟩, ⟨2, 6, [1], [1]⟩, ⟨1, 6, [1], [1, 17]⟩]⟩,
    ⟨2, [⟨0, 0, [2], []⟩, ⟨2, 10, [2], [2]⟩, ⟨0, 0, [], []⟩, ⟨0, 0, [], []⟩]⟩,
    ⟨3, [⟨0, 0, [3], []⟩, ⟨2, 14, [3], [3]⟩, ⟨0, 0, [], []⟩, ⟨0, 0, [], []⟩]⟩,
    ⟨0, [⟨0, 0, [3], []⟩, ⟨0, 0, [3], []⟩, ⟨2, 34, [8], [8]⟩, ⟨1, 3, [0], [0, 12]⟩]⟩,
    ⟨1, [⟨0, 0, [3], []⟩, ⟨0, 0, [3], []⟩, ⟨2, 38, [9], [9]⟩, ⟨1, 7, [1], [1, 13]⟩]⟩]

/-- `cps1616_cfg`, without its last element. -/
def cps1616Cfg : List CpsPortRelations :=
  [⟨0, [⟨4, 0, [0, 1], []⟩, ⟨2, 0, [0, 1], [2]⟩, ⟨2, 0, [0, 1], [2, 3]⟩,
      ⟨1, 0, [0, 1], [1, 2, 3]⟩]⟩,
    ⟨0, [⟨0, 0, [], []⟩, ⟨0, 0, [], []⟩, ⟨0, 0, [], []⟩, ⟨1, 1, [0, 1], [0, 2, 3]⟩]⟩,
    ⟨0, [⟨0, 0, [], []⟩, ⟨2, 2, [0, 1], [0]⟩, ⟨1, 2, [0, 1], [0, 2]⟩, ⟨1, 2, [0, 1], [0, 1, 3]⟩]⟩,
    ⟨0, [⟨0, 0, [], []⟩, ⟨0, 0, [], []⟩, ⟨1, 3, [0, 1], [0, 2]⟩, ⟨1, 3, [0, 1], [0, 1, 2]⟩]⟩,
    ⟨1, [⟨4, 4, [2, 3], []⟩, ⟨2, 4, [2, 3], [6]⟩, ⟨2, 4, [2, 3], [6, 7]⟩,
      ⟨1, 4, [2, 3], [5, 6, 7]⟩]⟩,
    ⟨1, [⟨0, 0, [], []⟩, ⟨0, 0, [], []⟩, ⟨0, 0, [], []⟩, ⟨1, 5, [2, 3], [4, 6, 7]⟩]⟩,
    ⟨1, [⟨0, 0, [], []⟩, ⟨2, 6, [2, 3], [4]⟩, ⟨1, 6, [2, 3], [4, 6]⟩, ⟨1, 6, [2, 3], [4, 5, 7]⟩]⟩,
    ⟨1, [⟨0, 0, [], []⟩, ⟨0, 0, [], []⟩, ⟨1, 7, [2, 3], [4, 6]⟩, ⟨1, 7, [2, 3], [4, 5, 6]⟩]⟩,
    ⟨2, [⟨4, 8, [4, 5], []⟩, ⟨2, 8, [4, 5], [10]⟩, ⟨2, 8, [4, 5], [10, 11]⟩,
      ⟨1, 8, [4, 5], [9, 10, 11]⟩]⟩,
    ⟨2, [⟨0, 0, [], []⟩, ⟨0, 0, [], []⟩, ⟨0, 0, [], []⟩, ⟨1, 9, [4, 5], [8, 10, 11]⟩]⟩,
    ⟨2, [⟨0, 0, [], []⟩, ⟨2, 10, [4, 5], [8]⟩, ⟨1, 10, [4, 5], [8, 10]⟩,
      ⟨1, 10, [4, 5], [8, 9, 11]⟩]⟩,
    ⟨2, [⟨0, 0, [], []⟩, ⟨0, 0, [], []⟩, ⟨1, 11, [4, 5], [8, 10]⟩, ⟨1, 11, [4, 5], [8, 9, 10]⟩]⟩,
    ⟨3, [⟨4, 12, [6, 7], []⟩, ⟨2, 12, [6, 7], [14]⟩, ⟨2, 12, [6, 7], [14, 15]⟩,
      ⟨1, 12, [6, 7], [13, 14, 15]⟩]⟩,
    ⟨3, [⟨0, 0, [], []⟩, ⟨0, 0, [], []⟩, ⟨0, 0, [], []⟩, ⟨1, 13, [6, 7], [12, 14, 15]⟩]⟩,
    ⟨3, [⟨0, 0, [], []⟩, ⟨2, 14, [6, 7], [12]⟩, ⟨1, 14, [6, 7], [12, 14]⟩,
      ⟨1, 14, [6, 7], [12, 13, 15]⟩]⟩,
    ⟨3, [⟨0, 0, [], []⟩, ⟨0, 0, [], []⟩, ⟨1, 15, [6, 7], [12, 14]⟩, ⟨1, 15, [6, 7], [12, 13, 14]⟩]⟩]

/-- `cps1432_cfg`, without its last element. -/
def cps1432Cfg : List CpsPortRelations :=
  [⟨0, [⟨4, 0, [0], []⟩, ⟨2, 0, [0], [12]⟩, ⟨0, 0, [], []⟩, ⟨0, 0, [], []⟩]⟩,
    ⟨1, [⟨4, 4, [1], []⟩, ⟨2, 4, [1], [13]⟩, ⟨0, 0, [], []⟩, ⟨0, 0, [], []⟩]⟩,
    ⟨2, [⟨4, 8, [2], []⟩, ⟨2, 8, [2], [14]⟩, ⟨2, 8, [2], [14]⟩, ⟨2, 8, [2], [10, 14]⟩]⟩,
    ⟨3, [⟨4, 12, [3], []⟩, ⟨2, 12, [3], [15]⟩, ⟨2, 12, [3], [15]⟩, ⟨2, 12, [3], [11, 15]⟩]⟩,
    ⟨0, [⟨4, 16, [4], []⟩, ⟨4, 16, [4], []⟩, ⟨0, 0, [], []⟩, ⟨0, 0, [], []⟩]⟩,
    ⟨1, [⟨4, 20, [5], []⟩, ⟨4, 20, [5], []⟩, ⟨0, 0, [], []⟩, ⟨0, 0, [], []⟩]⟩,
    ⟨2, [⟨4, 24, [6], []⟩, ⟨4, 24, [6], []⟩, ⟨2, 24, [6], [10]⟩, ⟨4, 24, [6], []⟩]⟩,
    ⟨3, [⟨4, 28, [7], []⟩, ⟨4, 28, [7], []⟩, ⟨2, 28, [7], [11]⟩, ⟨4, 28, [7], []⟩]⟩,
    ⟨0, [⟨0, 0, [], []⟩, ⟨0, 0, [], []⟩, ⟨0, 0, [], []⟩, ⟨0, 0, [], []⟩]⟩,
    ⟨0, [⟨0, 0, [], []⟩, ⟨0, 0, [], []⟩, ⟨0, 0, [], []⟩, ⟨0, 0, [], []⟩]⟩,
    ⟨2, [⟨0, 0, [0], []⟩, ⟨0, 0, [0], []⟩, ⟨2, 26, [6], [6]⟩, ⟨1, 11, [2], [2, 14]⟩]⟩,
    ⟨3, [⟨0, 0, [0], []⟩, ⟨0, 0, [0], []⟩, ⟨2, 30, [7], [7]⟩, ⟨1, 15, [3], [3, 15]⟩]⟩,
    ⟨0, [⟨0, 0, [0], []⟩, ⟨2, 2, [0], [0]⟩, ⟨0, 0, [], []⟩, ⟨0, 0, [], []⟩]⟩,
    ⟨1, [⟨0, 0, [0], []⟩, ⟨2, 6, [1], [1]⟩, ⟨0, 0, [], []⟩, ⟨0, 0, [], []⟩]⟩,
    ⟨2, [⟨0, 0, [0], []⟩, ⟨2, 10, [2], [2]⟩, ⟨2, 10, [2], [2]⟩, ⟨1, 10, [2], [2, 10]⟩]⟩,
    ⟨3, [⟨0, 0, [3], []⟩, ⟨2, 14, [3], [3]⟩, ⟨2, 14, [3], [3]⟩, ⟨1, 14, [3], [3, 11]⟩]⟩]

/-- `sps1616_cfg`, without its last element. -/
def sps1616Cfg : List CpsPortRelations :=
  [⟨0, [⟨4, 0, [0, 1], []⟩, ⟨2, 0, [0, 1], [2]⟩, ⟨2, 0, [0, 1], [2, 3]⟩,
      ⟨1, 0, [0, 1], [1, 2, 3]⟩]⟩,
    ⟨0, [⟨0, 0, [], []⟩, ⟨0, 0, [], []⟩, ⟨0, 0, [], []⟩, ⟨1, 1, [0, 1], [0, 2, 3]⟩]⟩,
    ⟨0, [⟨0, 0, [], []⟩, ⟨2, 2, [0, 1], [0]⟩, ⟨1, 2, [0, 1], [0, 3]⟩, ⟨1, 2, [0, 1], [0, 1, 3]⟩]⟩,
    ⟨0, [⟨0, 0, [], []⟩, ⟨0, 0, [], []⟩, ⟨1, 3, [0, 1], [0, 2]⟩, ⟨1, 3, [0, 1], [0, 1, 2]⟩]⟩,
    ⟨1, [⟨4, 4, [2, 3], []⟩, ⟨2, 4, [2, 3], [6]⟩, ⟨2, 4, [2, 3], [6, 7]⟩,
      ⟨1, 4, [2, 3], [5, 6, 7]⟩]⟩,
    ⟨1, [⟨0, 0, [], []⟩, ⟨0, 0, [], []⟩, ⟨0, 0, [], []⟩, ⟨1, 5, [2, 3], [4, 6, 7]⟩]⟩,
    ⟨1, [⟨0, 0, [], []⟩, ⟨2, 6, [2, 3], [4]⟩, ⟨1, 6, [2, 3], [4, 7]⟩, ⟨1, 6, [2, 3], [4, 5, 7]⟩]⟩,
    ⟨1, [⟨0, 0, [], []⟩, ⟨0, 0, [], []⟩, ⟨1, 7, [2, 3], [4, 6]⟩, ⟨1, 7, [2, 3], [4, 5, 6]⟩]⟩,
    ⟨2, [⟨4, 8, [4, 5], []⟩, ⟨2, 8, [4, 5], [10]⟩, ⟨2, 8, [4, 5], [10, 11]⟩,
      ⟨1, 8, [4, 5], [9, 10, 11]⟩]⟩,
    ⟨2, [⟨0, 0, [], []⟩, ⟨0, 0, [], []⟩, ⟨0, 0, [], []⟩, ⟨1, 9, [4, 5], [8, 10, 11]⟩]⟩,
    ⟨2, [⟨0, 0, [], []⟩, ⟨2, 10, [4, 5], [8]⟩, ⟨1, 10, [4, 5], [8, 11]⟩,
      ⟨1, 10, [4, 5], [8, 9, 11]⟩]⟩,
    ⟨2, [⟨0, 0, [], []⟩, ⟨0, 0, [], []⟩, ⟨1, 11, [4, 5], [8, 10]⟩, ⟨1, 11, [4, 5], [8, 9, 10]⟩]⟩,
    ⟨3, [⟨4, 12, [6, 7], []⟩, ⟨2, 12, [6, 7], [14]⟩, ⟨2, 12, [6, 7], [14, 15]⟩,
      ⟨1, 12, [6, 7], [13, 14, 15]⟩]⟩,
    ⟨3, [⟨0, 0, [], []⟩, ⟨0, 0, [], []⟩, ⟨0, 0, [], []⟩, ⟨1, 13, [6, 7], [12, 14, 15]⟩]⟩,
    ⟨3, [⟨0, 0, [], []⟩, ⟨2, 14, [6, 7], [12]⟩, ⟨1, 14, [6, 7], [12, 15]⟩,
      ⟨1, 14, [6, 7], [12, 13, 15]⟩]⟩,
    ⟨3, [⟨0, 0, [], []⟩, ⟨0, 0, [], []⟩, ⟨1, 15, [6, 7], [12, 14]⟩, ⟨1, 15, [6, 7], [12, 13, 14]⟩]⟩]

namespace CpsDevice

variable (dev : CpsDevice)

def cpr : List CpsPortRelations :=
  match dev with
  | .cps1848 => cps1848Cfg
  | .cps1432 => cps1432Cfg
  | .cps1616 => cps1616Cfg
  | .sps1616 => sps1616Cfg

def bitshift : Nat :=
  match dev with
  | .cps1848 | .cps1432 | .cps1616 => 2
  | .sps1616 => 4

/-- The quadrant of a port. -/
def quadrant (pnum : Nat) : Nat := ((dev.cpr[pnum]?).map (·.quadrant)).getD 4

/-- The lanes and PLLs of a port whose quadrant is configured with a value. -/
def portCfg (pnum quadCfgVal : Nat) : PQCfg :=
  ((dev.cpr[pnum]?).bind fun relations => relations.cfg[quadCfgVal]?).getD noLanes

/-- `quad_cfg_val`: the field of a quadrant. -/
def quadCfgVal (quadCfg : BitVec 32) (quad : Nat) : Nat :=
  ((quadCfg >>> (quad * dev.bitshift)) &&& 3).toNat

end CpsDevice

end RioFabric.CpsPort
