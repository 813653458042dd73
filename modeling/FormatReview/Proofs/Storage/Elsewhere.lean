import FormatReview.Proofs.Storage.Report

namespace FormatReview

/-! What writing a report leaves alone: every file but the one at its place and the one at the name
under which it is first written. -/

namespace Storage

variable {storage late : Storage} {location : Location} {path : Path} {changes rest : List Change}

end Storage

namespace Export

open Storage (Change Problem Moment)

variable {storage late : Storage} {path : Path} {content : ByteArray}

section Steps

variable {folders writes moves : List Change} {stopped : Option Problem}

end Steps

end Export

end FormatReview
