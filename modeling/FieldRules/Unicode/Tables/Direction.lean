import FieldRules.Unicode.Packed

/-!
Writing directions of the characters that a label of a host name may hold.
-/

namespace FieldRules.Unicode.Tables

/-- Where the direction class changes, and to what: 0 left to right, 1 right to left, 2 Arabic
letter, 3 Arabic number, 4 European number, 5 European separator, 6 common separator, 7 European
terminator, 8 other neutral, 9 boundary neutral, 10 nonspacing mark. -/
def directions : Packed where
  keyBits := 21
  width := 25
  perRow := 14
  size := 564
  rows := #[
    0x20006ea000371a001800000bba0005d80002d08001630000aee0005720000df80005b8000185000060a0002d,
    0x800dcb4006d6200338d0019c0800cdc600660a003259001882800c202005d0a002c8800122e800906000377,
    0x2800ffa2007f4a003f58801f00800f634007a62003a6d001cc0800e2540071120037d2001bc0800ddd4006e7,
    0x28011944008a0a0044c10021828010b2200840a0041488020a280104a200824a0040d880206a80102c200800,
    0x2801302000966a004b100025828012a200094ea004a6800252680128200093da0049e00024ee801274000903,
    0x2801482000a3ea0051e000280e8013fc0009e6a004f1000273a80139a0009c7a004e080026f6801378000982,
    0x28015f4000ae6a005710002b4280159a000ac9a005608002af6801578000a83a0053a80029ca8014e0000a5c,
    0x2801780000b83a005c10002d9a8016c4000b57a005a68002d1e801682000b40a0059f8002cf6801678000b02,
    0x28018c4000c58a00623000310680187c000c3da0061e0003016801808000c01a006000002f4280179a000bc1,
    0x2801a82000d3da0069d800340a801a00000ce6a006710003356801998000cbda0065e000320a801902000c66,
    0x2801c68000e32a007188003762801ba4000dcfa006e5000360a801b02000d66a006b1000353a801a9a000d46,
    0x2801ee2000f3ea0079a8003c82801e30000ed0a007640003af6801d68000eb2a007588003942801c8e000e40,
    0x28020b000103fa0081e80040ee802072001038a0081900040c680205a001000a007c68003e22801f00000f7f,
    0x28026ba0010d0a0084e800423a80211a001087a00842800420e802104001075a0083880041868020bc00105a,
    0x2802f920017c7a00be30005efa802f6e001780a00bb90005d82802ea4001734a00b990005c56802e24001380,
    0x2803272001933a00c9900064a680324e001923a00c9000062aa803152001887a00c428005f82802fba0017d7,
    0x28034e6001a6da00d32800698e8034c4001a61a00d2c000695e8034ac001a20a00d0d800686680342e001946,
    0x2803744001b82a00db58006d0e803684001b3da00d9e0006cee80366c001b35a00d9a0006c12803560001a80,
    0x2803858001bf2a00df78006fba8037da001beaa00df40006f9e8037cc001baea00dd58006eaa803750001ba6,
    0x2803b80001cfaa00e7c00073d68039e8001ceea00e7680073a68039c4001ce1a00e68000710280386c001c34,
    0x61f90030fb00184ed00c26400607940302a001802c00b8be805bc0002d80a016bf800b3ce8059de001e01,
    0x1500f40a806005401d02a008014f1900a788005391c029c5e814de000a6a0a0534f0029a06014cff40a66f,
    0x1526140a926005480502a3fc0151e540a8e0005468502a31001508140a82c005413d02a09401501940a80b,
    0x1545f40aa290054f3502a79401537d40a9bc0054dd502a6d801536940a9b30054c1d02a6000152a540a947,
    0x1556b40aab2005558d02aac00154fb40aa7c005526d02a93001548940aa43005520502a8d401546740aa31,
    0x157d340abe80055f3502af9401560340aaf6005577502abb001558540aac1005560502aaf801557340aab7,
    0x421421410a011084000040e028206ec010300a081700040a028203fa010000207f39d03ec780157e140abed,
    0x2821f04210f70a087a31043cc0421d61410eab10874018434c2821a48410d001085805042b944214c1410a38,
    0x2216f4110b300884150441fc0220eb411073008838d0441c00220cd4110380088015044004022000210fb0,
    0x2237f4111b60088c150446000222ed41117300889b50444b4022259411127008881d0444000221a14110b9,
    0x225e14112e30089705044b7c02250141123600891ad0448d002246541122f0088e8504473c02239d4111c9,
    0x2288f411446008a22d045108022881411438008a005044d9802268341134000899ed044cec022605411300,
    0x22b7d4115bc008adc50456c80229894114c2008a60d0452fc0229774114ba008a5cd0452cc0228bf41145e,
    0x22d5d4116ad008b565045aac022c8941163f008b1f50458f4022c77411633008b005045770022bb14115bf,
    0x23181411839008c1c50460bc022e61411727008b935045c88022e4141171d008b5c5045adc022d6d4116b0,
    0x23417411a09008d03d0468040233c34119e0008cee50467500232a1411943008c9fd0464f802327b41193b,
    0x2387d411c30008d4ed046a6002352f411a8a008d2e50469640234af411a51008d2850468ec023473411a33,
    0x23b27411d90008ea8504751c023a8d411d31008e8050472d4023969411cb2008e58d0472a8023953411c92,
    0x2df27416f8f00b7a8505bd3c02d681416b3000b580505abc0023deb411ef3008ecc504765c023b2d411d95,
    0x283d1a021e80000f1785078bb003c58141e2ae00f09bd0784c003c20141e00000ef80506f27402dfe1416fe4,
    0x10000087a52e83d28821e922]

end FieldRules.Unicode.Tables
