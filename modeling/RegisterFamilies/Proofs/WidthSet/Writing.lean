import RegisterFamilies.Proofs.WidthSet.Reading

namespace RegisterFamilies.WidthSet

open Text

variable {p t u v : List Char} {parts : List (List Char)} {s : WidthSet} {sets : List WidthSet}

namespace IsWord

end IsWord

end RegisterFamilies.WidthSet
