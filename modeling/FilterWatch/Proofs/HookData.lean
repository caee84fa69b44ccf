import FilterWatch.Proofs.Snapshots

/-! The same records under two infos. They make up the same chains exactly if the infos lead to the
same records by the same hooks. -/

namespace FilterWatch
open Proofs.Outcomes

namespace Anatomy

variable {first second : TableInfo} {entries : Bytes} {body otherBody : List Record}
  {closing otherClosing : Record} {builtin otherBuiltin : List Chain} {passages otherPassages : List Passage}

end Anatomy

end FilterWatch
