import FieldRules.Unicode.Packed

/-!
Case mappings and the two properties that decide the form of a final sigma.
-/

namespace FieldRules.Unicode.Tables

def lower : Packed where
  keyBits := 21
  width := 64
  perRow := 5
  size := 182
  rows := #[
    0x1a400260001308004040025c001000003e0001bc000d8000380001ac000c0000184000b400041,
    0x8005e8002fa001790003fc002f00017880052c002ec0014a8004e80028e001398004cc0026c00132,
    0x95800314001890006200030e001870009500030c0018680060c003080018200094c0030200181,
    0x648003220019100096c00320001900009640031e0018f0007740031c0018e000630003160018b,
    0x66400330001980009a00032e001970009a40032c0019600098c00328001940009800032600193,
    0xa000034c001a680068400348001a00009d40033e0019f0009c80033a0019d0009bc003380019c,
    0x6c00035e001af000a200035c001ae0006b400358001ac000a0c00352001a90006a00034e001a7,
    0x6f400378001bc0006e400370001b8000a480036e001b78006d00036a001b3000a2800364001b1,
    0x73000394001ca00072400390001c80007240038e001c70007180038a001c500071800388001c4,
    0x654003ec001f68007cc003e8001f20007cc003e2001f180077c003dc001de800730003b6001cb,
    0xb194004740023a80088c004640022200067800440002208007e40043c001f80006fc003ee001f7,
    0x6000048600243000908004820024100b1980047c0023e0006680047a0023d0008f0004760023b,
    0xddc006ec00376800dc4006e40037080091c0049c00246000a300048a00245000a240048800244,
    0xf340071e0038e000f30007180038c000eb40071400388000eb00070c00386000fcc006fe0037f,
    0xee0007e8003f4800f64007dc003d8000f5c0079e003cf000f0c00756003a3000ec40074200391,
    0x11400081e00400000dec007fe003fd000fec007f4003fa000fc8007f2003f9000fe0007ee003f7,
    0x8013080099a004c100133c00980004c080122c0097c0048a80118400900004600010c00085e00410,
    0xb4b40219a010cd00b49c0218e010c700b4000218a010a000158400aac0053180134400a5c004d0,
    0x80780403d2801e000043f40397e01cbd0043400397401c90004fe0027ea013f002adc0027de013a0,
    0x7c8003e5e01f28007c4003e3a01f18007c0003e1e01f08807a8403dfc01ea000037c03d3c01e9e,
    0x7e0003f1e01f88007d8003ede01f68807d4403ebe01f59007d0003e9a01f48007cc003e7e01f38,
    0x7ecc03f7801fbc007dc003f7601fba007ec003f7201fb8007e8003f5e01fa8007e4003f3e01f98,
    0x7f8003fd201fe8007dd803fb601fda007f4003fb201fd8007f0c03f9801fcc007dc803f9601fc8,
    0x7fcc03ff801ffc007df003ff601ffa007de003ff201ff8007f9403fd801fec007de803fd601fea,
    0x85c0042de021600085380426402132000394042560212b0001ac042540212a000f240424c02126,
    0x9ac058c402c6200b184058c002c6000b0c00585e02c000093400499e024b60086100430602183,
    0x9c4058dc02c6e000944058da02c6d80b1a0058d602c670009f4058c802c640075f4058c602c63,
    0x8fc058fe02c7e00b1d8058ea02c7500b1cc058e402c72000948058e002c70000940058de02c6f,
    0x829a0414d340a68082990414cd80a64000b3cc059e402cf280b3b0059da02ceb80b204059c402c80,
    0x829dfc14f0c0a77e0075e414efa0a77d829de814ef60a779829ccc14edc0a732829c8c14e5c0a722,
    0x99814f540a7aa829e5c14f500a796829e4414f240a79000099414f1a0a78d029e3014f160a78b,
    0xa7814f600a7b00009a814f5c0a7ae0009b014f5a0a7ad00098414f580a7ac00097014f560a7ab,
    0x29e5014f880a7c4829ed414f840a7b402ad4c14f660a7b3000a7414f640a7b2000a1c14f620a7b1,
    0x829f5c14fb00a7d6029f4414fa00a7d0829f2014f920a7c700763814f8c0a7c6000a0814f8a0a7c5,
    0x4165c20af410570041360209a6104b00410a02084e1040003fd041fe740ff21029fd814fea0a7f5,
    0x463002317e118a00433002196410c800416ec20b2a105940416cc20b241058c04168c20b141057c,
    0x7a4883d2421e90005b9802dcbe16e40]

def upper : Packed where
  keyBits := 21
  width := 64
  perRow := 5
  size := 200
  rows := #[
    0x5e0001fe000ff000360001fc000f8000300001ec000e0000e700016a000b5000104000f400061,
    0x800528002ee0014b8004e4002900013a8004c80026e0013300012400262001318004000025e00101,
    0x61c00310001888006080030a0018300090c003000018000014c002fe0017f8005e4002fc0017a,
    0x8f4003340019a00066000332001990007d80032a00195000644003240019200062c003180018c,
    0x6bc00360001b00006b00035a001ad00069c00350001a88006800034a001a10008800033c0019e,
    0x7100038a001c50007dc0037e001bf0006f00037a001bd0006e000372001b98006cc0036c001b4,
    0x72800398001cc00072800396001cb00071c00392001c900071c00390001c80007100038c001c6,
    0x7c4003e6001f30007c4003e4001f2800778003de001df000638003ba001dd800734003b8001ce,
    0xb1f8004800023f0008ec004780023c80088800466002238007e00043e001f90007d0003ea001f5,
    0xb1c0004a40025200b1b4004a20025100b1bc004a0002508009180049e002470009040048400242,
    0x640004b60025b00063c004b200259000624004ae00256000618004a800254000604004a600253,
    0x29e34004ca00265000650004c600263029eb0004c20026100064c004c000260029eac004b80025c,
    0xb188004d60026b029eb8004d40026a000658004d20026900065c004d000268029ea8004cc00266,
    0x67c004ea00275000674004e40027200b1b8004e200271000670004de0026f029eb4004d80026c,
    0x29ec40050e002870006a40050600283029f140050400282000698005000028000b190004fa0027d,
    0x6dc0052400292000914005180028c0006c4005160028a00091000512002890006b80051000288,
    0xdd8006ee00377800dc0006e600371000e640068a00345029ec00053c0029e029ec80053a0029d,
    0xe8c00784003c2000e4400782003b1000e200075e003ad000e1800758003ac000ff4006fa0037b,
    0xe60007a2003d1000e48007a0003d0000e380079c003cd000e3000798003cc000e8c00796003c3,
    0xe68007e0003f0800f60007de003d9000f3c007ae003d7000e80007ac003d6000e98007aa003d5,
    0xfdc007f0003f8000e54007ea003f5000dfc007e6003f3000fe4007e4003f2000e84007e2003f1,
    0x8012280097e0048b8011800090200461001000008be004500010400089e00430000fe8007f6003fb,
    0x7240021f4010d00014c400b0c0056180134000a5e004d10013000099e004cf8013040099c004c2,
    0x10780390401c820010500390201c810010480390001c80004fc0027fa013f80072f4021fe010fd,
    0x299280391001c880011880390e01c870010a80390c01c860010880390a01c850010840390801c83,
    0x798003d3601e9b80780003d2a01e01029f1803b1c01d8e00b18c03afa01d7d029df403af201d79,
    0x7ce003e6e01f30007ca003e4e01f20007c6003e2a01f10007c2003e0e01f00807a8003dfe01ea1,
    0x7f2003eea01f72007ee803ee201f70007da003ece01f60807d6403eae01f51007d2003e8a01f40,
    0x7e2003f0e01f80007fe803efa01f7c007fa803ef601f7a007fe003ef201f78007f6803eee01f76,
    0xe6403f7c01fbe007ef003f6601fb3007ee003f6201fb0007ea003f4e01fa0007e6003f2e01f90,
    0x7ff003fe601ff3007fb003fca01fe5007fa003fc201fe0007f6003fa201fd0007f3003f8601fc3,
    0xb000058be02c300092d8049d2024d000860c0430802184008580042fe021700084c80429c0214e,
    0xb1c8058e602c7380b19c058d802c680008f8058cc02c660008e8058ca02c6500b180058c202c61,
    0x428005a4a02d0000b3c8059e602cf380b3ac059dc02cec80b200059c602c8100b1d4058ec02c76,
    0x829c8814e5e0a723829a0014d360a68182990014cda0a64100433405a5a02d2d00431c05a4e02d27,
    0x829e4014f260a791029e2c14f180a78c829df814f0e0a77f829de414ef80a77a829cc814ede0a733,
    0x29f4014fa20a7d1829f1c14f940a7c8829ed014f860a7b5829e5814f520a797029f1014f280a794,
    0x3fc841feb40ff41004e801577e0ab70029ecc156a60ab53029fd414fec0a7f6829f5814fb20a7d7,
    0x4163020b72105b30415f020b62105a30415c020b42105970412c0209f6104d80410002089e10428,
    0x7a4003d2861e92205b9002dcfe16e60046280231be118c0043200219e410cc004165020b78105bb]

/-- Characters whose upper-case form is two or three characters. -/
def longUpper : Packed where
  keyBits := 21
  width := 84
  perRow := 4
  size := 102
  rows := #[
    0x180800c20007320039000000000c3000094001f00000000013800578001490000000014c000a6000df,
    0xc20000a801e9700000000cc40009001e960000000154800a6a0058700180800c200074a003b0,
    0xc4c0074a01f5000000000af80008201e9a00000000c28000b201e9900000000c28000ae01e98,
    0xe6403e1001f80001a1000c4c0074a01f5600180800c4c0074a01f5400180000c4c0074a01f52,
    0xe6403e1801f8400000000e6403e1601f8300000000e6403e1401f8200000000e6403e1201f81,
    0xe6403e1001f8800000000e6403e1e01f8700000000e6403e1c01f8600000000e6403e1a01f85,
    0xe6403e1801f8c00000000e6403e1601f8b00000000e6403e1401f8a00000000e6403e1201f89,
    0xe6403e5001f9000000000e6403e1e01f8f00000000e6403e1c01f8e00000000e6403e1a01f8d,
    0xe6403e5801f9400000000e6403e5601f9300000000e6403e5401f9200000000e6403e5201f91,
    0xe6403e5001f9800000000e6403e5e01f9700000000e6403e5c01f9600000000e6403e5a01f95,
    0xe6403e5801f9c00000000e6403e5601f9b00000000e6403e5401f9a00000000e6403e5201f99,
    0xe6403ed001fa000000000e6403e5e01f9f00000000e6403e5c01f9e00000000e6403e5a01f9d,
    0xe6403ed801fa400000000e6403ed601fa300000000e6403ed401fa200000000e6403ed201fa1,
    0xe6403ed001fa800000000e6403ede01fa700000000e6403edc01fa600000000e6403eda01fa5,
    0xe6403ed801fac00000000e6403ed601fab00000000e6403ed401faa00000000e6403ed201fa9,
    0xe6403f7401fb200000000e6403ede01faf00000000e6403edc01fae00000000e6403eda01fad,
    0x1cc800d080072201fb700000000d080072201fb600000000e640070c01fb400000000e640072201fb3,
    0xe640071201fc400000000e640072e01fc300000000e6403f9401fc200000000e640072201fbc,
    0x180000c200073201fd200000000e640072e01fcc001cc800d080072e01fc700000000d080072e01fc6,
    0x180000c200074a01fe2001a1000c200073201fd700000000d080073201fd600180800c200073201fd3,
    0x1a1000c200074a01fe700000000d080074a01fe600000000c4c0074201fe400180800c200074a01fe3,
    0xd080075201ff600000000e640071e01ff400000000e640075201ff300000000e6403ff401ff2,
    0x1240008c0fb01000000001180008c0fb0000000000e640075201ffc001cc800d080075201ff7,
    0x150000a60fb05000260001180008c0fb04000248001180008c0fb03000000001300008c0fb02,
    0x14ec00a880fb15000000014d400a880fb140000000151800a880fb1300000000150000a60fb06,
    0x14f400a880fb170000000151800a9c0fb16]

def cased : Packed where
  keyBits := 21
  width := 42
  perRow := 8
  size := 155
  rows := #[
    0xdd0003e0001ec000d80006b00030000174000ba0005a8002d400154000aa0003d000184000b400041,
    0x1bb800dd8006e600370001a2800d14005c8002e000160800b000057000295001498007100037e001bc,
    0x240800fdc007ea003a3001d0800e38007180038c001c5000e200070c00386001bf800dfc006fa0037a,
    0x87f8043f4021f4010d0008668043340218e010c70086280428000b1000560002ab0014c400a5e0048a,
    0xf8e807c6003e2a01e0000edf8074000397e01cbd00e5d0072400391001c80009fe804fe0027ea013a0,
    0xfda007e0003efa01f5f00fae807d7403eb601f5b00fac807d6403eae01f5000fa6807d2003e8a01f20,
    0xffa007fc803fd801fe000fed807f5803fa601fd000fe6007f1803f8801fc200fdf007ef803f7801fb6,
    0x108a808454042260210a0108380841c04204021020104e008240040fe0207f010388081c403ff801ff6,
    0x109f8084f004272021390109a0084bc0425a0212a010940084a00424c02126010920084900423a02119,
    0x167980b3c8059dc02ceb0167200b000049d2024b6010c200860c042fe02160010a70085380429202145,
    0x53e5029e4014f1c0a78b053c3829c8814d3a0a6800533682990005a5a02d2d0169380b49c05a4a02d00,
    0x55df82adc0156d00ab5c055ad02acc014ff40a7f8053fb029fd414fb20a7d5053e9829f4c14fa20a7d0,
    0x82bd0415c0209f6104d8082698412c02089e1040007fad03fd041fe740ff2107d8b83ec4c1f60c0fb00,
    0x83c0041e0020b78105bb082dc8416cc20b62105a3082d084165c20b2a10594082c904163020b141057c,
    0xea2a0750002dcfe16e4008c6f846280219e410cc00865904320020f74107b2083d8041e1c20f0a10783,
    0xea618752f43a9761d4bb0ea5c8752b83a9581d4a90ea530752943a9441d4a20ea4f8752783a9381d456,
    0xeaa30755183aa881d5400ea9f0754ec3aa721d51e0ea8e0754583aa281d50d0ea8507541c3aa0a1d4c5,
    0xeba7075cd83ae681d7160eb8a075bf03adf41d6dc0eb6d075b083ad801d6a80eb528755483aaa01d54a,
    0xf4a187a4003be3c1df0b0ef84877c003af961d7c40ebe1075ea83af501d78a0ebc4075dc03aedc1d750,
    0x3e3121f1700f8b487c5403e2921f130]

/-- Ranges of characters that are passed over when the case around them is looked at. -/
def caseIgnorable : Packed where
  keyBits := 21
  width := 42
  perRow := 8
  size := 427
  rows := #[
    0x578002bc0015a000ad000540002a0000c0000600002f000178000740003a000170000b80004e00027,
    0x24480120c0070e00387001c2800e10006f40037a001ba800dd0006de002b00005c0002dc00168000b4,
    0x2fa0017d000b8e005c7002e280171000b84005c1002df8016fc00b7a00591002af80157c00ab200559,
    0x374001b7c00dba006d6003380019c000cbe0064b0032000190000c380061c0030d00184000c0a00600,
    0x3fe801ff400ff4007fa003fa801fac00f60007a6003a5001cc000e220071100387801c3c00dda006ea,
    0x49e0024f0012740093a004810023240113e008980044880224001110008880042d8021640105a00816,
    0x4e200270401378009bc004c0802604012e200971004b1802588012ae00951004a68025340129000941,
    0x52680292c0149000a47005210029040147800a3c00501002804013fc009fe004f18027880139a009cd,
    0x566802b340159000ac700562802b040157800abc00541002a04014ea00a75005388029c0014a200a51,
    0x5ab002d540169a00b4d005a2002d040167e00b3f0059e002cf00160200b010057f802be8015c600ae2,
    0x6200030f80187800c3c006020030100180000c00005e6802f340178000bc0005c1002e08016c600b62,
    0x6630033180197e00cbf0065e0032f00190200c8100631803188018ac00c55006268031280189000c46,
    0x6c080360401ac600d62006a680353401a8800d410069e0034ec01a0200d00006718033880199a00ccc,
    0x75e003ad001d6200eb10072700391801c7400e34007188038c401bac00dd6006ea00374801b9400dca,
    0x7c2003e0001efc00f710079c803ce401e6e00f370079a803cd401e3200f1800766803b2001d8c00ec6,
    0x81f0040f402074010390081b8040c8020600102d007e3003f1801f7800f99007cb803e3401f0e00f86,
    0x87e0043f00213a0109d008468042340210c0108500841004208020e80107100830004178020b201058,
    0xbe3005f1802f7a017b700bda805ed002ee60177200ba9805d4802e660173200b8a005c48026be0135d,
    0xc9100648003152018a900c43006214030860184300c0780602c02fba017dd00beb805f5c02fa6017c9,
    0xd30006980034bc01a5800d2b0069580343601a1b00d0c00685c032760193900c990064c80325001927,
    0xd9a006cd00360601b0000d67006ac00354e01aa700d3f8069fc034f801a7300d36006994034c401a62,
    0xdd6806eac0375201ba800dd2806e880370201b8000db9806dac0368401b4200d9e006cf00367401b36,
    0xe69007340038fa01c7800e1b8070d80386601c2c00df8806fbc037da01bed00df4806fa0037cc01be6,
    0xeff80766c03af001d7800eb50074b0039f201cf800e7a0073d0039da01ced00e74007388039c001cd4,
    0x100c8080600401e0200b00fff007ff403fde01fed00fef807f7403f9e01fcd00fe0807efc03f7a01fbd,
    0x104e008240040fe0207f010388081c4040de02066010320081800405c0202a0101380809c0404802024,
    0x180280c01405c5e02e2f016ff80b78005afe02d7f016b780b5bc059e202cef0163e80b1f0041e0020d0,
    0x5306029830149fa0a4f80500a828054061fc030fc0184f00c264060760303b0181a80c0c40605a0302a,
    0x53c5029e2014ee00a77005390829c0014de20a6f00534f829a7014cfe0a67f0533e8299d014ce40a66f,
    0x546282a310150580a82c0541302a094150160a80b0540302a018150040a802053fc829fe014fe80a7f2,
    0x54de82a6f0153720a9b6054d982a6cc153040a980054a882a51c1525a0a9260547f82a3fc151e20a8e0,
    0x553802a9c0154980aa4c0552182a90c1546c0aa350551902a8c41545c0aa29054f302a7941539e0a9cf,
    0x557682abb0155ba0aadd0556082ab041557e0aabe0555c02aadc155680aab20555802aac0154f80aa7c,
    0x7d8f03ec78157da0abed055f402afa0157ca0abe5055b582ada4156be0ab5b0557b02abd8155e80aaf3,
    0x7f8383fc1c1fdfe0feff07f2a83f9541fca40fe5207f1783f8801fc260fe1307f0783f8001f7840fbb2,
    0x7ffd83ffe41ffc60ffe307fcf83fe781fee00ff7007fa003fd001fe7c0ff3e07f8d03fc681fe1c0ff0e,
    0x85030428142140610a01083dd041ec820f6010787083c2841e00206f41037608170040b80203fa101fd,
    0x87c2843e0821ea010f4608756043aac21a4e10d2408573042b942147e10a3f0851d0428e02141e10a0c,
    0x885e8442f422174110b90885b0442cc221021107f0883a0441cc220e011070088230440e02200211001,
    0x88df0446d82230211180088b98445cc222681112d0889584449c22204111000886684433422184110c2,
    0x8975044b8c225be112df0891f0448f82246e112360891a0448d0224621122f088e784473c22398111c9,
    0x8a23045118228881144208a1f8450e0226e811370089b6044d9822680113400899e044cec2260211300,
    0x8ae00456fc22b7a115bc08ada8456c822986114c208a600452fc22974114ba08a5c0452cc228bc1145e,
    0x8b5b845adc22d6a116b008b56845ab422d56116ab08b200458fc22c7a1163d08b1d0458cc22bba115dc,
    0x8ca184650c2327c1193e08c9e0464ec230741183908c1b8460bc22e561172708b92845c8822e3e1171d,
    0x8d2b0469442348e11a4708d1f0468ec2347011a3308d05046804233c0119e008ced846768233ae119d4,
    0x8e580472a82394e11c9208e1f8470fc2387a11c3808e1b0470c02353211a9808d4b046a28234b611a59,
    0x8ec884764023a8e11d4708ea28474fc23a7a11d3c08e9d0474e823a6c11d3108e5b0472d42396611cb2,
    0xb7a785bd3c2d68616b400b59b05acc02d5e816af009a1c04d0c023de811ef308ecb84765c23b2a11d95,
    0xde5186f2803793c1bc9d0d7ff06bff435ff61aff50d7f986bfc02dfc816fe30b7f085bf802df3e16f8f,
    0xed1b0768003a4881d2420e8d68746a83a3161d1850e8c10745cc3a2d21d1670e7a3073cc039e5a1cf00,
    0xf01087806c3c0301e0080f0030780003b55e1daa10ed4f876a6c3b5081da840ed3a8769d43b4d81da3b,
    0xf9ff87cfec3d2961e9440f46b07a3403c5de1e2ec0f157078ab83c27a1e1300f0150780983c0481e023,
    0x1c03dee01007003fb80081c0002e0001]

end FieldRules.Unicode.Tables
