import FieldRules.Unicode.Packed

/-!
Characters that a label of a host name may hold wherever they stand.
-/

namespace FieldRules.Unicode.Tables

def permitted : Packed where
  keyBits := 21
  width := 42
  perRow := 8
  size := 842
  rows := #[
    0x82800414002060010300080800404001fe000f80007b00037c000f4000610001c8000c00005a0002d,
    0x8a8004540022600113000888004440021e0010f00086800434002160010b000848004240020e00107,
    0x928004940024600123000908004840023e0011f0008e800474002360011b0008c8004640022e00117,
    0x9c0004dc0026a00135000988004c40025e0012f000968004b4002560012b000948004a40024e00127,
    0xa580052c0029000148000a30005180028800144000a10005080027c0013e0009e0004f0002740013a,
    0xad80056c002b200159000ab80055c002aa00155000a980054c002a200151000a780053c0029a0014d,
    0xb58005ac002d200169000b380059c002ca00165000b180058c002c200161000af80057c002ba0015d,
    0xbe0005f0002f40017a000bb8005dc002ea00175000b98005cc002e200171000b78005bc002da0016d,
    0xca8006540032400192000c68006300031000188000c28006140030600183000c0000600002fc0017e,
    0xd68006b400356001aa000d40006a00034a001a5000d180068c00342001a1000cf0006780033600199,
    0xe9000748003a0001d0000e700073800386001bd000dd8006e40036c001b6000da0006d000360001b0,
    0xf180078c003c2001e1000ef80077c003ba001dc000ed000768003b0001d8000eb000758003a8001d4,
    0xfc8007e4003ea001f5000f80007bc003da001ed000f58007ac003d2001e9000f380079c003ca001e5,
    0x1048008240040e0020700102800814004060020300100800804003fe001ff000fe8007f4003f6001fb,
    0x10c8008640042e002170010a8008540042600213001088008440041e0020f00106800834004160020b,
    0x1148008a40044e00227001128008940044600223001108008840043e0021f0010e800874004360021b,
    0x121000908004800023f0011e0008f00047200233001188008c40045e0022f001168008b4004560022b,
    0x176000bb0005a2002c600160800ae40055e0024f00126800934004960024b001248009240048e00247,
    0x1bb800ddc006e600373001b8800dc4006de00350001a7000d1800684003420019f800c00005dc002ee,
    0x1ef800f7c007ba003dd001ed800f6c007b2003d9001eb800f5c0079c003ac001c8000e40006fa0037b,
    0x1f7800fbc007da003ed001f5800fac007d2003e9001f3800f9c007ca003e5001f1800f8c007c2003e1,
    0x23380119c008ca004650023180118c008c2004610022f8010c0007f8003fb001fc000fe0007e6003f3,
    0x23b8011dc008ea00475002398011cc008e200471002378011bc008da0046d002358011ac008d200469,
    0x246801234009160048b0024380120c00902004810023f8011fc008fa0047d0023d8011ec008f200479,
    0x24e801274009360049b0024c8012640092e004970024a8012540092600493002488012440091e0048f,
    0x2568012b400956004ab002548012a40094e004a70025280129400946004a3002508012840093e0049f,
    0x25e8012f400976004bb0025c8012e40096e004b70025a8012d400966004b3002588012c40095e004af,
    0x26780133800998004cc0026500132800990004c80026300131800988004c4002610013080097e004bf,
    0x26f80137c009ba004dd0026d80136c009b2004d90026b80135c009aa004d50026980134c009a2004d1,
    0x2778013bc009da004ed002758013ac009d2004e90027380139c009ca004e50027180138c009c2004e1,
    0x27f8013fc009fa004fd0027d8013ec009f2004f90027b8013dc009ea004f5002798013cc009e2004f1,
    0x28780143c00a1a0050d0028580142c00a12005090028380141c00a0a005050028180140c00a0200501,
    0x28f80147c00a3a0051d0028d80146c00a32005190028b80145c00a2a005150028980144c00a2200511,
    0x2978014bc00a5a0052d002958014ac00a52005290029380149c00a4a005250029180148c00a4200521,
    0x2f900171c00b8a005c4002e100170400b7e005bf002de80164400b1000588002c300158000ab200559,
    0x377801ba800dd0006df0036e001b5400da6006790033a0019b800cbe006410031f80188000c3400610,
    0x4b1802580012ae0088900443802180010b6008400041680200000ffa007fd003fa801c4000dfe006fa,
    0x52e002970014a200a380051a8028d401464009fe004fe0027f0013e2009e0004eb8025c4012de00966,
    0x641803200018de00c00005f7802e08016e200b71005b7802d7c016ae00af900577802a04014ea00a66,
    0x72c80394001c9c00e400071d0038d001c6400e01006f98035e801ade00d5f006ab80355001a9c00c85,
    0x79b803cdc01e6a00f3500794803c8001e3200f1800785803c2c01e0000ede0076c803ad001d6400e81,
    0x7b9003da801ed000f5d007ad803d6001eac00f53007a8803d3801e9800f44007a1003cf801e7200f39,
    0x7d5803ea001f4c00fa3007d0803e7801f3800f94007c9003e1801f0800f82007c0003de801ee800f74,
    0x9af804800021fe010fd0087d0043400213a010500082480400001f8c00fc6007de003ee801f7000fad,
    0xbe9805ed802f660174000b9a005bc402dd4016a000b4d0059bc02cd801401009fa804e800271e01380,
    0xd5e806ac00354e01aa700d4c8068800343601a0000cec806518032760181000bf4805f7002fae017d7,
    0xe978074bc03a5601cd400e69007340038fa01c4000e1b807000037e601b8000db9806dac036b201abf,
    0xf0280781403c0601e0300f0080780403bfe01dc000ecd0075e403aee01d6b00ea700753803a7601d3b,
    0xf0a80785403c2601e1300f0880784403c1e01e0f00f0680783403c1601e0b00f0480782403c0e01e07,
    0xf1280789403c4601e2300f1080788403c3e01e1f00f0e80787403c3601e1b00f0c80786403c2e01e17,
    0xf1a8078d403c6601e3300f188078c403c5e01e2f00f168078b403c5601e2b00f148078a403c4e01e27,
    0xf2280791403c8601e4300f2080790403c7e01e3f00f1e8078f403c7601e3b00f1c8078e403c6e01e37,
    0xf2a80795403ca601e5300f2880794403c9e01e4f00f2680793403c9601e4b00f2480792403c8e01e47,
    0xf3280799403cc601e6300f3080798403cbe01e5f00f2e80797403cb601e5b00f2c80796403cae01e57,
    0xf3a8079d403ce601e7300f388079c403cde01e6f00f368079b403cd601e6b00f348079a403cce01e67,
    0xf42807a1403d0601e8300f40807a0403cfe01e7f00f3e8079f403cf601e7b00f3c8079e403cee01e77,
    0xf4c807a5403d2601e9300f48807a4403d1e01e8f00f46807a3403d1601e8b00f44807a2403d0e01e87,
    0xf55807aac03d5201ea900f53807a9c03d4a01ea500f51807a8c03d4201ea100f4f807a7c03d3a01e9c,
    0xf5d807aec03d7201eb900f5b807adc03d6a01eb500f59807acc03d6201eb100f57807abc03d5a01ead,
    0xf65807b2c03d9201ec900f63807b1c03d8a01ec500f61807b0c03d8201ec100f5f807afc03d7a01ebd,
    0xf6d807b6c03db201ed900f6b807b5c03daa01ed500f69807b4c03da201ed100f67807b3c03d9a01ecd,
    0xf75807bac03dd201ee900f73807b9c03dca01ee500f71807b8c03dc201ee100f6f807b7c03dba01edd,
    0xf7d807bec03df201ef900f7b807bdc03dea01ef500f79807bcc03de201ef100f77807bbc03dda01eed,
    0xfb3807d8003eae01f5000fa2807d0003e6e01f3000f93807c8003e2a01f1000f83807bfc03dfa01efd,
    0xfd8807ec003ef801f7c00fbd007de803ef001f7800fbb007dd803ee801f7400fb9007dc803ee001f70,
    0x10a700853803fec01ff600ff3807f9003fc401fe000feb807f5803fa401fd000fe3007f1803f6c01fb6,
    0x163880b1c4058d802c6c0163500b1a8058d002c680163300b194058c202c610162f80b0c00430802184,
    0x164580b22c0591202c890164380b21c0590a02c850164180b20c0590202c810163d80b1d8058e802c73,
    0x164d80b26c0593202c990164b80b25c0592a02c950164980b24c0592202c910164780b23c0591a02c8d,
    0x165580b2ac0595202ca90165380b29c0594a02ca50165180b28c0594202ca10164f80b27c0593a02c9d,
    0x165d80b2ec0597202cb90165b80b2dc0596a02cb50165980b2cc0596202cb10165780b2bc0595a02cad,
    0x166580b32c0599202cc90166380b31c0598a02cc50166180b30c0598202cc10165f80b2fc0597a02cbd,
    0x166d80b36c059b202cd90166b80b35c059aa02cd50166980b34c059a202cd10166780b33c0599a02ccd,
    0x16b380b400059e602cf30167880b3b8059d802cec0167200b38c059c202ce10166f80b37c059ba02cdd,
    0x187d00c2840613c0309d0184d00c104060780303c0181680c0a80600e030050171780b8bc05bfe02d7f,
    0x5306029400149fa0a4d00524601380009b7e03400018ff80c7c00637e031a00189780c414061fc030fc,
    0x532682993414c960a64b0532482992414c8e0a6470532282991414c860a6430532082990414c560a610,
    0x532e82997414cb60a65b0532c82996414cae0a6570532a82995414ca60a6530532882994414c9e0a64f,
    0x53378299b414cd60a66b053348299a414cce0a6670533282999414cc60a6630533082998414cbe0a65f,
    0x5345829a2c14d120a68905343829a1c14d0a0a68505341829a0c14d020a6810533f8299fc14cfa0a674,
    0x534d829a6c14d320a6990534b829a5c14d2a0a69505349829a4c14d220a69105347829a3c14d1a0a68d,
    0x5395829cac14e520a72905393829c9c14e4a0a72505391829c8c14e3e0a71705378829bc014dca0a69e,
    0x539e829cf414e760a73b0539c829ce414e6e0a7370539a829cd414e660a73305398829cbc14e5a0a72d,
    0x53a6829d3414e960a74b053a4829d2414e8e0a747053a2829d1414e860a743053a0829d0414e7e0a73f,
    0x53ae829d7414eb60a75b053ac829d6414eae0a757053aa829d5414ea60a753053a8829d4414e9e0a74f,
    0x53b6829db414ed60a76b053b4829da414ece0a767053b2829d9414ec60a763053b0829d8414ebe0a75f,
    0x53c2829e1414f060a783053c0829e0414efe0a77f053be029df014ef40a77a053bc029dc414ede0a76f,
    0x53cd829e6c14f320a799053cb829e5c14f2a0a793053c8829e4414f1e0a78e053c6029e3014f100a787,
    0x53d7829ebc14f520a7a9053d3829e9c14f4a0a7a5053d1829e8c14f420a7a1053cf829e7c14f3a0a79d,
    0x53e1829f0c14f820a7c1053df829efc14f7a0a7bd053dd829eec14f720a7b9053db829edc14f6a0a7b5,
    0x541602a0b01504e0a7fa053fb829fd814fb20a7d9053eb829f5c14faa0a7d1053e5029f2814f900a7c8,
    0x54ec82a73c153800a980054a982a4c01525a0a8fd0547d82a3ec151ee0a8d00546282a200150e60a840,
    0x6bd182afb0157d40abc0055b402ad80156b40aaf20557782ab80155ba0aa7a0553b02a980154b20a9e0,
    0x7d8f03ec781f4520fa2707d1203e88c1f4420fa2107d0f83e87c1f4280fa1307d0883e8441f41e0fa0e,
    0x81ce840d402069210342081a0040cb42063e10300081700407f4201f41000007f3983f9cc1fc5e0fe20,
    0x847a8423802113c108800843b042180210aa10800083c004165c20ac6104d8082548410a02079e103a0,
    0x8563842b002153810a800853e0429802147e10a00084df8426f82136e109800849c8424802122a10900,
    0x869c843400219e410cc0086240430002172210b80085b9042d80216aa10b400859a842c00215cc10ac9,
    0x889f844308221741106608823043f8021f8810fb0087c2843dc021ea010f270878e043ac021d5810e80,
    0x8a25044ac0225501123e0891b844800223b8111dc088ed04473822398111c9088e20445d8222e611144,
    0x8c1d045d0022e72116c008b5c045a0022cb21164408b2004576022b80114c708a62845178228b211450,
    0x8e2c8471402388011ab008d4e846a742353211a4708d1f04678c233c21195008ca18463fc231d2118c0,
    0xb5a185ad002d66c16b000b57a05a9c02d4d213000097f8049200247321200008fd8047ec023dec11c72,
    0xed1b07680039e8c1cf000de4f06f2743793216fe30b7f085bc002dcfe16e600b5c785ad8c2d6b216b50,
    0xf4ac87a4883d1ac1e8d00f462079f803c5f21e2900f0a7076a6c3b5081da840ed3a8769d43b4d81da3b,
    0x189a50c00005d7c020000]

end FieldRules.Unicode.Tables
