import FieldRules.Unicode.Packed

/-!
Characters of identifiers.
-/

namespace FieldRules.Unicode.Tables

def identifierStart : Packed where
  keyBits := 21
  width := 42
  perRow := 8
  size := 655
  rows := #[
    0x1608003e0001ec000d80006b00030000174000ba0005a8002d400154000aa0003d000184000b400041,
    0x1bf800dfc006fa0037b001bb800dd8006e80037000177000bb8005d8002ec00172000b80005a2002c6,
    0x2ab0014c400a5e0048a00240800fdc007ea003a3001d0800e38007180038c001c5000e200070c00386,
    0x36a801b5400da600671003378019b800c9400620002f90017bc00bd4005d0002c400158000ab200559,
    0x3d8801ec400f4a0074d00397801c4800e20007100037f801bfc00df8006fa00377801bb800dcc006e5,
    0x42c002100010500082800412002090010340081a0040a80200000ff4007fa003fa801fd000fd4007ca,
    0x4b0802560012a0009500049e8024f40127200904004648022800111c00889004438021c0010d400860,
    0x4de8026f401372009b6004d90026c801360009aa004d400264c013200098f004c60026140130000971,
    0x51400284c0142000a0f00505002814013f8009fc004f88027c0013c2009df004ee8027700139c009ce,
    0x546802a14014e800a720052f002978014b800a590051c8028e00146c00a35005198028c80146000a2a,
    0x570802b80015a000ad00055e802af40157200ab500559802ac80156000aaa00554002a4c0152200a8f,
    0x59e802cf40167200b3500599802cc80166000b2a00594002c4c0162000b0f00586002c14015f200af9,
    0x5cd002e640172a00b92005c8002e380171400b85005c1802e0c016e200b71005b0802d7c016ba00b5c,
    0x6080030380181800c05005e8002f400177200bae005d5002ea00174800ba3005cf802e780173800b9c,
    0x6460032140190000c8000630803180018ba00c5d0062d0031600187a00c3d0061c8030a80185000c12,
    0x6790033c4019c200ce00066f0033740197a00cbd0065c8032d40196600caa006540032480192000c8e,
    0x6bf8035e801ac200d5f006ab00355001a9c00d4e0069e8034f401a7400d120068800343801a1800d04,
    0x72300390001c6400e320071800380401b8c00dc0006de8036f401b7600db3006d880366801b2c00d85,
    0x75e803af401d6400eb200758003a9c01d4a00ea500751803a3001d1400e8600742003a1001d0400e81,
    0x81500400001f1800f88007b6003d2401e8e00f4000780003c0001dbe00edc00763003b1801d8800ec0,
    0x8470042380210201075008380041b8020cc0106500830804184020ba0105a0082a8041400207e0103f,
    0x92c004960024ac012500092680492802490010fc0087d0043400219a010cd0086380431c0218a010a0,
    0x962804b0802580012c00095f004ae00256a012b200958004a400251a0128a00944004980024ba0125a,
    0xb36005004027fa013f8009fa804e800271e01380009ad004c600262a0131200988004b60025ac012c8,
    0xbb6005d8002ea20174000b98805c7c02e220170000b7c005bb802dd4016a000b4d005a0402cfe0166f,
    0xc7a8062c003154018aa00c54006200030f00182000bee005f7002fae017d700bd9805e0002ee00176e,
    0xd53806a9c034a801a2000d0b00680003392019b000cd5806600032e80197000cb68065400323c01900,
    0xe3e8071680389e01c4d00e11807000037ca01bba00dd7806eb80374001b8300da6006d140366601b05,
    0xedf807400039f401cfa00e7b0073d4039e601cee00e760073a40397e01cbd00e5d0072400391001c80,
    0xfae807d7403eb601f5b00fac807d6403eae01f5000fa6807d2003e8a01f2000f8e807c6003e2a01e00,
    0xfed807f5803fa601fd000fe6007f1803f8801fc200fdf007ef803f7801fb600fda007e0003efa01f5f,
    0x108380841c04204021020104e008240040fe0207f010388081c403ff801ff600ffa007fc803fd801fe0,
    0x109f8084f0042720212a010940084a00424c02126010920084900423a021180108a808454042260210a,
    0x169380b49c05a4a02d000167980b3c8059dc02ceb0167200b0000431002160010a70085380429202145,
    0x16df00b6e005b6c02db0016d700b6a005b4c02da0016cb00b60005ade02d6f016b380b4c005a5a02d2d,
    0x181e00c0e00606a030310181480c0840600e03005016ef00b76005bac02dd0016e700b72005b8c02dc0,
    0x18ff80c7c00637e031a0018c700c4c40625e031050187f80c3f0061f4030a10184f80c2740612c03041,
    0x534e8299fc14cdc0a640053158298a814c3e0a61005306029400149fa0a4d00524601380009b7e03400,
    0x5400829fc814fb20a7d5053e9829f4c14fa20a7d0053e5029e2c14f100a7220538f829c5c14dde0a6a0,
    0x547f02a3f4151f60a8fb0547b82a3c8151660a8820543982a100150440a80c0540502a01c1500a0a803,
    0x54ff02a7e8153de0a9e6054f202a7801539e0a9cf054d902a610152f80a960054a302a4c01524a0a90a,
    0x555b02aad4155620aab10555782a9f8154f40aa7a0553b02a980154960aa440552102a900154500aa00,
    0x558702ac241560c0ab010557a02abc8155d40aae00556e82ab6c155840aac20556002ab001557a0aab9,
    0x6be3035ec01af460ac00055f102adc0156d20ab5c055ad02acc01565c0ab280559302ac801562c0ab11,
    0x7d9b03eca81f6500fb1f07d8e83ec741f62e0fb1307d8303ec001f5b20fa7007d3683e4001aff60d7cb,
    0x7ec783f5401fa7a0fc6407e2e83ef4c1f7620fb4607da203ed0c1f6820fb4007d9f03ecf81f6780fb38,
    0x7f3e83f9f41fcf60fe7b07f3c83f9e41fcee0fe7707f3983f9cc1fce20fe7107efc83f7c01fb8e0fd92,
    0x7feb83ff481ff9e0ffca07fe383ff081ff7c0ffa007fce83fd981feb40ff4107f9d03fc841fdf80fe7f,
    0x807d040200200ba10050080268400fc2007a1003c0801d0400a02004c1000d080058400001ffb80ffda,
    0x81e1840e802073a10380081ba840d40206941032d0818f840c00205a0102a00814e040a00202e810140,
    0x82bd0415c020ac61053008293841400209f6104d8082698412c02093a10400081ea840f442079e103c8,
    0x839b04180020b78105bb082dc8416cc20b62105a3082d084165c20b2a10594082c904163020b141057c,
    0x841a84202821010108080840284200020f74107b2083d8041e1c20f0a10780083b3841d8020eaa10740,
    0x848a842400211ea108f4084790423802113c108800843b042180210aa1083f0841e0420f02107010837,
    0x853e0429802146a10a190850b8428542142610a10085000428002137e109be084db8426002127210920,
    0x86240430002172210b80085b9042d80216aa10b400859a842c00215c810ac908563842b002153810a80,
    0x87a2843cc021e4e10f270878e043c0021d6210eb008754843a0021a4610d00086790433002196410c80,
    0x88740443402215e110830883a8441d4220e4110710881b84400c21fec10fe0087e2043ec021f0210f70,
    0x88ed04476822388111c1088d904460c222ec11176088b90445402228e11147088a20445102224c11103,
    0x8954044a7c2253a1128f08946844a28225101128808943044a00224561121308908844800223b8111dc,
    0x899e844cf4226721133508999844cc8226601132a08994044c4c226201130f08986044c14225bc112b0,
    0x8a6384531c2298a114c408a57845200228c21145f08a2504511c2286811400089b0844d74226a011350,
    0x8ba3045d0022e341170008b5c045ae022d541168008b2204591022c5e1160008aed84576022b5c11580,
    0x8c9f8464fc2325e1191808c8b046454232261190c08c848464242320c118ff08c6f8462802305611800,
    0x8d1d0468e82346411a0b08d00046800233c6119e308cf0846784233a0119aa08cd38466802328211941,
    0x8e478471c82388011c4008e170470282381011c0008d7c046ac02353a11a9d08d44846970234a011a50,
    0x8ecc04766023b1211d6a08eb404759c23aca11d6008ea304751823a6011d0b08e8484742023a0c11d00,
    0xa3230510002685c13000097f804be4024a861248009237049000247321200008fd8047ec023de411ee0,
    0xb5c785adf42d6ee16b630b5a185ad002d65e16b000b57685ab402d57c16a700b52f05a9002d47016800,
    0xc66a86200030fee170000b7f185bf8c2dfc216fe00b7cf85be4c2dea016f500b7a505bc002dcfe16e40,
    0xd97d86c5c0362ce1b1640d8a906c540362441b0000d7ff06bff435ff61aff50d7f986bfc031a1018d00,
    0xea510752883a93e1d49e0ea4e0751583a8a81d4000de4c86f240379101bc800de3e06f1c0378d41bc00,
    0xea8a0754343aa141d5070ea828753143a9861d4bd0ea5d8752ec3a9721d4ae0ea560752a43a94c1d4a5,
    0xeb60075aa03ad4a1d5520eaa80755283aa8c1d5460eaa20755003aa7c1d53b0ea9c8754783aa381d516,
    0xebd4075e283af101d7700ebb7075d403ae9c1d7360eb9a075c583ae281d6fc0eb7d075b703adb41d6c2,
    0xf175878b003c55a1e2900f0a70785383c27a1e1370f0960784003be3c1df000ebe5875f103af841d7aa,
    0xf70187b8003d2961e94b0f4a187a4003d1881e8000f3ff079fc03cfdc1e7ed0f3f5879fa03cfcc1e7e0,
    0xf71d87b8ec3dc721ee390f71b87b8d03dc641ee290f71387b89c3dc481ee240f71107b8843dc3e1ee05,
    0xf72b87b95c3dca81ee540f72907b9443dc9e1ee4d0f72587b92c3dc921ee490f72387b91c3dc841ee42,
    0xf73907b9b03dcd41ee670f73207b9903dcc41ee610f72f87b97c3dcba1ee5d0f72d87b96c3dcb21ee59,
    0xf75d87baac3dd521eea50f75187ba843dd361ee8b0f74487ba003dcfc1ee7e0f73e07b9e43dcee1ee74,
    0x626943000017d0e8be0005d7c02ceb0167508ae0805703a2b74015b9c0a9c0054dbe20000]

def identifierPart : Packed where
  keyBits := 21
  width := 42
  perRow := 8
  size := 763
  rows := #[
    0x5d0002e80016e000b70005a8002d400154000aa0003d000184000be0005f0002d0001040007200030,
    0x1ba000c00005dc002ee00176000bb0005c8002e000168800b1800582000f80007b000360001ac000c0,
    0x240800fdc007ea003a3001d0800e38007180038c001c5000e18006fe0037f001be800dec006ee00376,
    0x2e100170400b7e005bf002de80164400b1000560002ac80156400aac00531002978012280090e00483,
    0x36e001b5400da60066e0033480188000c3400610002f90017bc00bd4005d0002e380171c00b8a005c4,
    0x3fe801ff400ff4007fa003fa801f0000f620074d003a5001c4000dfe006ff0037e001ba800dd0006df,
    0x4b7802598012c6008e3004708022600111c00889004438021c0010d4008600042d8021000105a00800,
    0x4e20026f001372009b6004d90026c801360009aa004d400264c013200098f004c60026140130600971,
    0x4ff0027f8013f8009fc004f8802798013c6009df004ee802770013ae009d7004e700272c01390009c7,
    0x51c8028e00146c00a35005198028c80146000a2a0051400284c0142000a0f005050028140140600a01,
    0x53a802998014bc00a5e0052e002964014a200a510052680292c0149000a47005210028f80147800a3c,
    0x562802af00157200ab500559802ac80156000aaa00554002a4c0152200a8f00546802a140150600a81,
    0x586002c140160600b010057f802be4015de00ae600571802b80015a000ad000566802b2c0159200ac7,
    0x5a6802d2c0169000b47005a2002cf00167200b3500599802cc80166000b2a00594002c4c0162000b0f,
    0x5c8002e380171400b85005c1802e08016e200b71005b7802d98016c600b5f005ae802d70016ae00b55,
    0x5e1002ef80177200bae005d5002ea00174800ba3005cf802e780173800b9c005cd002e640172a00b92,
    0x6140030480182000c0e00606003000017de00be6005eb802f5c017a000bd0005e6802f280179000bc6,
    0x631803180018ba00c5d0062d003160018ac00c55006268031280189000c46006220030f00187200c2a,
    0x6620032f00197200cb5006598032a80195000c92006480032380191800c8500641803200018de00c66,
    0x686003400019e400cf100677803398019c600ce00066f003374019ac00cd5006668033280199000cc6,
    0x6bf8035e801ade00d66006b180357c01aae00d54006a700352801a9000d46006a200344801a2000d0e,
    0x6ea00373c01b9400dca006e300370001b7a00dbd006dd8036cc01b6200d9a006cb00361401b0600d81,
    0x741003a0401cb200e500072700390001c7400e01006f98037c801bde00de6006ef80376001bac00dd6,
    0x766803b2001d8c00ec600762003b0001d7a00ea700752803a9401d4600e8c00745003a1801d0800e84,
    0x79c803ce401e6e00f370079a803cd401e5200f200078c803c6001e0000f000076f803b7001db200ed0,
    0x84e8041400209201000007e3003f1801f7800f99007cb803e1801f0800f71007b6003d2401e8e00f3e,
    0x92c004960024ac012500092680492802490010fc0087d0043400219a010cd0086380431c0218a010a0,
    0x962804b0802580012c00095f004ae00256a012b200958004a400251a0128a00944004980024ba0125a,
    0x9fa804e800271e01380009b8804da4026be0135d009ad004c600262a0131200988004b60025ac012c8,
    0xb9a005c7c02e2a0170000b7c005bb802dd4016a000b4d005a0402cfe0166f00b36005004027fa013f8,
    0xbf4805f8002fba017dc00beb805f5c02fa60178000bb9805dc802ee00176e00bb6005d8002ea601740,
    0xc9d8064c0032560192000c8f006400031ea018b000c55006200030f00182000c0c80603c0301a0180b,
    0xd3e006980034bc01a2000d0d806800033b4019d000ce48066c0033560198000cba0065c0032da01946,
    0xdb9806dac036b201b5000da6006c000359c01abf00d5e806ac00354e01aa700d4c806a400351201a7f,
    0xe690073400397e01cbd00e5d0072400391001c8000e3e8071340389201c4000e1b807000037e601b80,
    0xfad807d6c03eb201f5900fab807d4003e9a01f4800fa2807c8003e3a01f1800f8a807400039f401cd4,
    0xfe9807f4003f9801fc600fe2007f0803f7c01fbe00fde007ed803f6801f8000fbe807d7c03eba01f5d,
    0x103f8081fc040e2020710102a008150040800203f00ffe007fd803fe801ff200ff6007f8003fb601fd6,
    0x108a808454042260210a0108380841c042040210201078008394041c2020e10106e0083400413802090,
    0x10a700853804292021450109f8084f0042720212a010940084a00424c02126010920084900423a02118,
    0x16b780b5bc05ace02d300169680b4b405a4e02d270169280b400059e602ceb0167200b0000431002160,
    0x16eb00b74005b9c02dc8016e300b70005b7c02db8016db00b6c005b5c02da8016d300b68005b2c02d7f,
    0x184d00c2640612c030410181e00c0e00606a030310181780c0840600e03005016ff80b78005bbc02dd8,
    0x26df80d000063fe031f0018df80c6800631c031310189780c414061fe030fc0187d00c2840613e0309d,
    0x538f829c5c14de20a67f0533e8299d014cde0a6400531582984014c180a5000527e8293401491804e00,
    0x543982a100150580a82c05413829fc814fb20a7d5053e9829f4c14fa20a7d0053e5029e2c14f100a722,
    0x54e002a600152f80a960054a982a4c01525a0a8fd0547d82a3ec151ee0a8e00546c82a3401518a0a880,
    0x556e82ab6c155840aa7a0553b02a980154b20aa500552682a9001546c0aa00054ff02a780153b20a9cf,
    0x55ad02acc01565c0ab280559302ac801562c0ab110558702ac241560c0ab010557b02abc8155de0aae0,
    0x7d3683e4001aff60d7cb06be3035ec01af460ac00055fc82afc0157da0abec055f502adc0156d20ab5c,
    0x7da083ed001f67c0fb3e07d9e03ece01f66c0fb2a07d9403ec741f62e0fb1307d8303ec001f5b20fa70,
    0x7f0783f8001fbf20fdf007ee383f6481fb1e0fd5007e9e83f1901f8ba0fbd307dd883ed181f6880fb43,
    0x7f3d83f9ec1fcf20fe7907f3b83f9dc1fce60fe7307f3883f9c41fc9e0fe4d07f1a03f8cc1fc5e0fe20,
    0x7fe383ff081ff7c0ff6607fad03fd041fe7e0ff3f07f9d03fc841fe320ff1007f7e03f9fc1fcfa0fe7d,
    0x80268400fc2007a1003c0801d0400a02004c1000d080058400001ffb80ffda07feb83ff481ff9e0ffca,
    0x818f840c00205c0102e008168040a802053810280080fe8407f4202e8101400807d040200200ba10050,
    0x82548412802093a10400081ea840f442079e103c8081e1840e802073a10380081bd040d40206941032d,
    0x82ca84165020b241058c082c50415f020af410570082b18414c020a4e105000827d841360209a6104b0,
    0x83c2841e0020ece10760083aa841d0020e6c10600082de0416ec20b72105b3082d884168c20b4210597,
    0x842a8420fc210781083c0841c0420dc2106a1080a084040420202100a10800083dd041ec820f6010787,
    0x84df8426f82136e109800849c8424802122a109000847a8423d0211e4108e00844f042200210ec10860,
    0x853e0429802147e10a3f0851d0428e02146a10a190850b8428542142610a0c085030428142140610a00,
    0x86240430002172210b80085b9042d80216aa10b400859a842c00215cc10ac908563842b002153810a80,
    0x878e043c0021d6210eb008756043aac21d5210e800869c8434c021a4e10d00086790433002196410c80,
    0x885d0441fc220ea110660882304400021fec10fe0087e2043ec021f0a10f70087a8043cc021e4e10f27,
    0x88bb0445d8222e611150088a38445102227e111360889a044400221f2110f00887404434022184110c2,
    0x8943044a002247c1123e0891b84484c2242211200088ee044770223b4111ce088e60447242238811180,
    0x8986044c1422606113000897c844bc0225d4112b008954044a7c2253a1128f08946844a282251011288,
    0x89a6844d2c2269011347089a2044cec226721133508999844cc8226601132a08994044c4c226201130f,
    0x8a30845178228b21145008a25045000226e811370089b6044d98226c61135d089ab844d5c226a011350,
    0x8b2204591022c801160008aee84576022b80115b808ada845600229b2114d008a6384531c2298a11480,
    0x8c1d04600022e8c1174008b9c845cc022e561171d08b8d045c0022d92116c008b5c045a0022cb211650,
    0x8ca18464ec232701193708c9a8464602322c1191508c89846430232121190908c830463fc231d2118a0,
    0x8d4c8469402348e11a4708d1f046800233c8119e308cf0846768233ae119aa08cd3846680232b211950,
    0x8e538472482391e11c7208e2c8471402388011c3808e1b0470282381011c0008d7c046ac02353a11a9d,
    0x8eac84754023a8e11d3f08e9e8474f023a7411d3a08e9b04742c23a1211d0808e830474002396c11ca9,
    0x8fd8047ec023dec11ee008ed484768023b3011d9308ec884764023b1c11d6a08eb404759c23aca11d60,
    0xb52f05a9002d470168000a3230510002685c13000097f804be4024a8612480092370490002473212000,
    0xb5ac85ad402d68616b400b59b05ac002d5e816af00b57685ab402d59216ac00b55f05a9c02d4d216a60,
    0xb7f205bf8c2dfc216fe00b7cf85be3c2df0e16f4f0b7a505bc002dcfe16e400b5c785adf42d6ee16b63,
    0xd89106c00035ffc1affd0d7fd86bfd435fe61aff00c684063400319aa188000c3fb85c0002dfe216ff0,
    0xde4f06f274379321bc900de4406f200378f81bc700de3506f000365f61b1700d8b386c590362a41b150,
    0xe9220749083a35a1d1aa0e8c58746143a3041d17b0e8b90745b43a2d21d1650e7a3073cc039e5a1cf00,
    0xea5d8752ec3a9721d4ae0ea560752a43a94c1d4a50ea510752883a93e1d49e0ea4e0751583a8a81d400,
    0xeaa20755003aa7c1d53b0ea9c8754783aa381d5160ea8a0754343aa141d5070ea828753143a9861d4bd,
    0xeb9a075c583ae281d6fc0eb7d075b703adb41d6c20eb60075aa03ad4a1d5520eaa80755283aa8c1d546,
    0xed1b0768003affe1d7ce0ebe5875f103af841d7aa0ebd4075e283af101d7700ebb7075d403ae9c1d736,
    0xf00c0780203c00c1e0000ef8f077c003b55e1daa10ed4f876a6c3b5081da840ed3a8769d43b4d81da3b,
    0xf157078a403c29c1e14e0f0a48785003c27a1e1300f0960784003c0541e0260f01207808c3c0421e01b,
    0xf4a587a4003d1ac1e8d00f46207a0003cffc1e7f00f3f7079fb43cfd61e7e80f3f3079f803c5f21e2c0,
    0xf71b87b8d03dc641ee290f71387b89c3dc481ee240f71107b8843dc3e1ee050f70187b8003d2b21e950,
    0xf72907b9443dc9e1ee4d0f72587b92c3dc921ee490f72387b91c3dc841ee420f71d87b8ec3dc721ee39,
    0xf73207b9903dcc41ee610f72f87b97c3dcba1ee5d0f72d87b96c3dcb21ee590f72b87b95c3dca81ee54,
    0xf75187ba843dd361ee8b0f74487ba003dcfc1ee7e0f73e07b9e43dcee1ee740f73907b9b03dcd41ee67,
    0x175f00b3ac059d422b82015c0e8add0056e702a7001536f8800003f7f21fbf00f75d87baac3dd521eea5,
    0x1c03dee0100189a50c00005f43a2f800]

end FieldRules.Unicode.Tables
