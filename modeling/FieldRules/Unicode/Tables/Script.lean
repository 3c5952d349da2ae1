import FieldRules.Unicode.Packed

/-!
Scripts that the neighbours of some host name characters must belong to.
-/

namespace FieldRules.Unicode.Tables

def greek : Packed where
  keyBits := 21
  width := 42
  perRow := 8
  size := 36
  rows := #[
    0x1c6000e300071400388001c3000e180070800384001bf800dfc006fa0037a001bb800dd4006e600370,
    0xf8a807c0003b7e01dbf00eb500759803ac201d5d00e95007498007fe003f0001f0800e8c007420038e,
    0xfbe807d7c03eba01f5d00fad807d6c03eb201f5900fab807d4003e9a01f4800fa2807c8003e3a01f18,
    0x109300849803ffc01ff600ffa007fc803fde01fdd00fed807f5803fa601fc600fe2007ed803f6801f80,
    0xe92287480020340101a0080c7040500156ca0ab65]

def hebrew : Packed where
  keyBits := 21
  width := 42
  perRow := 8
  size := 9
  rows := #[
    0x7da203ed0c1f6820fb4007d9f03ecf81f6780fb3807d9b03ec7400be8005ef002f500174000b8e00591,
    0x1f69e0fb46]

def japanese : Packed where
  keyBits := 21
  width := 42
  perRow := 8
  size := 41
  rows := #[
    0x184b00c10406076030380181480c0840600e030070180280c01405faa02f000177980ba6c05d3202e80,
    0x4fff81380009b7e03400019ab80cc00065fc032d0018ff80c7c0061fe030fd0187d00c2840613e0309d,
    0xd7fd86bfd435fe61aff00b7fb05bfc02dfc616fe207fce83fdc41fede0ff6607d6c83e9c01f4da0f900,
    0xd8b386c590362aa1b1550d8a906c540362641b1320d89106c4803623e1b0010d80006c00035ffc1affd,
    0x189a50c00005f43a2f8001772e8bafc05d7c02ceb0167568ae0805703a2a7001536f8800003e4001f200,
    0x668f231350]

end FieldRules.Unicode.Tables
