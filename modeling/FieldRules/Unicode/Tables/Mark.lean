import FieldRules.Unicode.Packed

/-!
Combining marks.
-/

namespace FieldRules.Unicode.Tables

def marks : Packed where
  keyBits := 21
  width := 42
  perRow := 8
  size := 239
  rows := #[
    0x30d00184000b8e005c7002e280171000b84005c1002df8016fc00b7a005910024480120c006de00300,
    0x3a5001cc000e220071100376801ba800dd0006e700372001b7c00db8006d6003380019c000cbe0064b,
    0x42d8021640105a0082900413802094010460081b0040c80205800ffa007fd003f9801fac00f60007a6,
    0x4de0026f00130600981004b1802588012ae00951004a78024f8012780093a004818023280113e00898,
    0x541802a04014ea00a75005388029c0014a200a3c005018027f8013c6009e2004eb80275c0139a009be,
    0x5c1002e08016c600b62005ab802cf80167800b3c00581802be8015c600ae200566802af80157800abc,
    0x65e0032f00190600c8100631803188018ac00c3e0061e0030f00180800c00005eb802f5c0179a00bbe,
    0x6c180360401ac600d62006ab80355c01a9a00d3e0069e0034ec01a0600d0000671803388019ac00cbe,
    0x766803b2001d7800eb400758803ac401c9c00e470071d0038d001c6200e31006f98037c801bbe00dca,
    0x7de003e3401f0e00f86007c2003dc401e7e00f3e0079c803ce401e6e00f370079a803cd401e3200f18,
    0x846804208020e8010710083680419c020c80106200830004178020b2010560081f0040ac01f8c00fc6,
    0xbe9805ed002ee60177200ba9805d4802e680173200b8a805c48026be0135d0084e8042680211e0108f,
    0xd82006ac0034fe01a5500d0d80685c032760192000c548062a40310c0188500c0780602c02fba017dd,
    0xe74007350039a401cd000e1b807090037e601be600dd6806e840370401b8000db9806dac0368801b34,
    0x16ff80b78005afe02d7f0167880b3bc041e0020d000eff807700039f201cf700e7a0073d0039da01ced,
    0x540302a018150040a80205378829bc014d3e0a69e0533e8299d014ce40a66f0184d00c2640605e0302a,
    0x549682a498151fe0a8ff0547882a3801518a0a8b40544082a200150580a82c0541382a08c150160a80b,
    0x553e82a9ec1549a0aa4c0552182a90c1546c0aa29054f282a794153800a9b3054c182a600152a60a947,
    0x55f502af8c155ec0aaf50557782abac155820aac10555f82aaf8155700aab70555a02aac8155600aab0,
    0x8507842804206f41037608170040b80203fa101fd07f1783f8801fc1e0fe0007d8f03ec78157da0abec,
    0x88230440e02200411000087c2843e0821ea010f4608756043aac21a4e10d2408573042b942147e10a38,
    0x88a304451422268111270888104440022184110c20885d0442c0221041107f0883a0441cc220e011070,
    0x8975044b7c2247c1123e0891b8448b02239e111ce088e604472422380111b3088c1044600222e611173,
    0x8a618452c0228bc1145e08a230450d4226e811362089ab844d5c2269a1133e0899e044cec2260611300,
    0x8ca00465002327c1193008c1d0460b022e561171d08b5b845aac22c801163008aee84577022b80115af,
    0x8d2d8469442348e11a4708d1f0468ec2347211a3308d05046804233c8119e408cf00467442328611942,
    0xb57a05abc023dec11ef308ecb84762823a8e11d4708ea28474c42396c11c9208e1f8470bc2353211a8a,
    0xe8c10745b43a2d21d1650e7a3073c003793c1bc9d0b7f885bf902df2416f510b7a785bd3c2d66c16b30,
    0xed57876a6c3b5081da840ed3a8769d43b4d81da3b0ed1b0768003a4881d2420e8d68746a83a3161d185,
    0x1c03dee01000f4a507a5103d1ac1e8d00f177878bb03c55c1e2ae0f09b0784c03c0541e000]

end FieldRules.Unicode.Tables
